import Mathlib.Data.List.Sort
import ScriptAudit.FileTree.Walk
import ScriptAudit.Proofs.FileTree.Nodes

/-!
# The traversal of a file tree

What stands below a directory, along directories that can all be looked into, can be
said without any traversal, and sorted by location. The traversal that goes depth first,
and sorts nothing but the names in one directory, comes to the same nodes in the same
order. The reason is that the sorted list falls apart in the same way: behind a
directory stand one block for each of its entries, in the order of their names.
-/

namespace ScriptAudit

open Text (Octets)

namespace FileTree

variable {tree : FileTree}

/-! ## What stands below a directory -/

/-- Whether a node stands below a directory and every directory on the way to it
can be looked into. -/
def reachableFrom (tree : FileTree) (start : Location) (node : Node) : Bool :=
  start.isPrefixOf node.location &&
    decide (start.length < node.location.length) &&
    (List.range (node.location.length - start.length)).all fun depth =>
      match tree.get? (node.location.take (start.length + depth)) with
      | some around => !around.locked
      | none => true

/-- The nodes below a directory that a walk can come to, sorted by location. -/
def below (tree : FileTree) (start : Location) : List Node :=
  (tree.nodes.filter (tree.reachableFrom start)).mergeSort
    fun first second => decide (first.location ≤ second.location)

/-- Every directory on the way from a location along names can be looked into. -/
def IsOpenAlong (tree : FileTree) (base : Location) (names : List Octets) : Prop :=
  ∀ front, front <+: names → front ≠ names →
    ∀ around, tree.get? (base ++ front) = some around → around.locked = false

theorem reachableFrom_append
    {base : Location}
    {names : List Octets}
    {node : Node}
    (located : node.location = base ++ names) :
    tree.reachableFrom base node = true ↔ names ≠ [] ∧ tree.IsOpenAlong base names := by
  have isPrefix : base.isPrefixOf node.location = true := by simp [located]
  have length : node.location.length = base.length + names.length := by simp [located]
  have taken : ∀ depth, node.location.take (base.length + depth) =
      base ++ names.take depth := fun depth => by
    rw [located, List.take_length_add_append]
  rw [reachableFrom, isPrefix]
  simp only [length, Nat.add_sub_cancel_left, taken, Bool.true_and, Bool.and_eq_true,
    decide_eq_true_eq, List.all_eq_true, List.mem_range]
  refine and_congr (by simp [List.length_pos_iff]) ?_
  constructor
  · intro opens front isFront proper around found
    have shorter : front.length < names.length :=
      Nat.lt_of_le_of_ne isFront.length_le fun same => proper (isFront.eq_of_length same)
    have checked := opens front.length shorter
    rw [← List.prefix_iff_eq_take.mp isFront, found] at checked
    simpa using checked
  · intro opens depth shorter
    split
    · rename_i around found
      have proper : names.take depth ≠ names := fun same => by
        have := congrArg List.length same
        simp only [List.length_take] at this
        omega
      simpa using opens _ (List.take_prefix depth names) proper around found
    · rfl

/-- A node stands below a location when names lead to it along directories that can
all be looked into. -/
theorem mem_below_iff
    {base : Location}
    {node : Node} :
    node ∈ tree.below base ↔
      node ∈ tree.nodes ∧ ∃ names, names ≠ [] ∧ node.location = base ++ names ∧
        tree.IsOpenAlong base names := by
  rw [below, List.mem_mergeSort, List.mem_filter]
  refine and_congr_right fun _ => ?_
  constructor
  · intro reachable
    have starts : base <+: node.location := by
      simp only [reachableFrom, Bool.and_eq_true] at reachable
      exact List.isPrefixOf_iff_prefix.mp reachable.1.1
    obtain ⟨names, located⟩ := starts
    obtain ⟨nonempty, opens⟩ := (reachableFrom_append located.symm).mp reachable
    exact ⟨names, nonempty, located.symm, opens⟩
  · rintro ⟨names, nonempty, located, opens⟩
    exact (reachableFrom_append located).mpr ⟨nonempty, opens⟩

theorem IsOpenAlong.of_append
    {base : Location}
    {names more : List Octets}
    (opens : tree.IsOpenAlong base (names ++ more)) :
    tree.IsOpenAlong base names := by
  intro front isFront proper
  refine opens front (isFront.trans (List.prefix_append names more)) fun whole => ?_
  subst whole
  exact proper (isFront.eq_of_length_le (by simp))

theorem IsOpenAlong.concat
    {names : List Octets}
    {name : Octets}
    {base : Location}
    {directory : Node}
    (opens : tree.IsOpenAlong base names)
    (found : tree.get? (base ++ names) = some directory)
    (unlocked : directory.locked = false) :
    tree.IsOpenAlong base (names ++ [name]) := by
  intro front isFront proper around aroundFound
  rcases List.prefix_concat_iff.mp isFront with whole | isEarlier
  · exact absurd whole proper
  · rcases eq_or_ne front names with rfl | earlier
    · rw [found] at aroundFound
      rwa [← Option.some.inj aroundFound]
    · exact opens front isEarlier earlier around aroundFound

/-- Nothing stands below what is no directory or cannot be looked into. -/
theorem below_eq_nil
    {base : Node}
    (present : tree.get? base.location = some base)
    (closed : base.isDirectory = false ∨ base.locked = true) :
    tree.below base.location = [] := by
  refine List.eq_nil_iff_forall_not_mem.mpr fun node isBelow => ?_
  obtain ⟨nodePresent, names, nonempty, located, opens⟩ := mem_below_iff.mp isBelow
  rcases closed with noDirectory | locked
  · obtain ⟨ancestor, found, isDirectory⟩ :=
      exists_ancestor (located ▸ get?_location nodePresent) nonempty
    rw [present] at found
    simp [Option.some.inj found, isDirectory] at noDirectory
  · have unlocked := opens [] List.nil_prefix nonempty.symm base (by simpa using present)
    simp [locked] at unlocked

/-! ## The order of a walk -/

/-- The order in which a walk comes to nodes. -/
def Precedes (first second : Node) : Prop :=
  first.location < second.location

instance : Std.Irrefl Precedes :=
  ⟨fun node => List.lt_irrefl node.location⟩

instance : Std.Antisymm Precedes :=
  ⟨fun _ _ inOrder reversed => absurd reversed (List.lt_asymm inOrder)⟩

theorem below_pairwise (tree : FileTree) (base : Location) :
    (tree.below base).Pairwise Precedes := by
  have sorted : (tree.below base).Pairwise fun first second =>
      decide (first.location ≤ second.location) = true :=
    List.pairwise_mergeSort
      (fun first second third earlier later => by
        simp only [decide_eq_true_eq] at *
        exact List.le_trans earlier later)
      (fun first second => by
        simpa using List.le_total first.location second.location) _
  have distinct : ((tree.below base).map Node.location).Nodup := by
    have kept : ((tree.nodes.filter (tree.reachableFrom base)).map Node.location).Nodup :=
      tree.distinct.sublist (List.filter_sublist.map Node.location)
    exact ((List.mergeSort_perm _ _).map Node.location).nodup_iff.mpr kept
  refine (sorted.and (List.pairwise_map.mp distinct)).imp ?_
  rintro first second ⟨inOrder, different⟩
  exact Std.lt_of_le_of_ne (by simpa using inOrder) different

/-- The nodes that a walk comes to from the one that its start leads to. -/
def walkedNodes (tree : FileTree) (base : Node) : List Node :=
  base :: tree.below base.location

theorem lt_append_of_ne_nil
    {names : List Octets}
    (base : Location)
    (nonempty : names ≠ []) :
    base < base ++ names := by
  have shorter : ([] : Location) < names := by
    obtain ⟨name, rest, rfl⟩ := List.exists_cons_of_ne_nil nonempty
    exact List.nil_lt_cons name rest
  have longer : base ++ [] < base ++ names := List.append_left_lt shorter
  rwa [List.append_nil] at longer

/-- A walk comes to its nodes in the order of their locations. -/
theorem walkedNodes_pairwise (tree : FileTree) (base : Node) :
    (tree.walkedNodes base).Pairwise Precedes := by
  refine List.pairwise_cons.mpr ⟨?_, tree.below_pairwise base.location⟩
  intro node isBelow
  obtain ⟨_, names, nonempty, located, _⟩ := mem_below_iff.mp isBelow
  rw [Precedes, located]
  exact lt_append_of_ne_nil base.location nonempty

theorem walkedNodes_nodup (tree : FileTree) (base : Node) :
    (tree.walkedNodes base).Nodup := by
  refine (tree.walkedNodes_pairwise base).imp ?_
  rintro first second inOrder rfl
  exact List.lt_irrefl _ inOrder

/-! ## The blocks of a directory -/

theorem mem_listing_iff
    {directory node : Node} :
    node ∈ tree.listing directory ↔
      node ∈ tree.nodes ∧ node.location = directory.location ++ [node.name] := by
  rw [listing, List.mem_mergeSort, List.mem_filter, decide_eq_true_eq]
  refine and_congr_right fun present => ?_
  have nonempty : node.location ≠ [] := fun empty => by
    have named := (tree.rooted node present).1
    simp [empty] at named
  obtain ⟨around, name, located⟩ :=
    (List.eq_nil_or_concat' node.location).resolve_left nonempty
  rw [Node.name, located, List.dropLast_concat, List.getLastD_concat,
    List.append_left_inj]

/-- The entries of a directory stand in the order of their locations. -/
theorem listing_pairwise (tree : FileTree) (directory : Node) :
    (tree.listing directory).Pairwise fun first second => first.name < second.name := by
  have sorted : (tree.listing directory).Pairwise fun first second =>
      decide (first.name ≤ second.name) = true :=
    List.pairwise_mergeSort
      (fun first second third earlier later => by
        simp only [decide_eq_true_eq] at *
        exact List.le_trans earlier later)
      (fun first second => by
        simpa using List.le_total first.name second.name) _
  have distinct : (tree.listing directory).Pairwise fun first second =>
      first.location ≠ second.location := by
    have kept := tree.distinct.sublist ((List.filter_sublist
      (p := fun node => decide (node.location.dropLast = directory.location))).map
        Node.location)
    exact List.pairwise_map.mp
      (((List.mergeSort_perm _ _).map Node.location).nodup_iff.mpr kept)
  refine (sorted.and distinct).imp_of_mem ?_
  rintro first second firstMember secondMember ⟨inOrder, different⟩
  refine Std.lt_of_le_of_ne (by simpa using inOrder) fun same => different ?_
  rw [(mem_listing_iff.mp firstMember).2, (mem_listing_iff.mp secondMember).2, same]

/-- What is walked from an entry of a directory stands behind the name of the entry. -/
theorem exists_names_of_mem_walkedNodes
    {base node : Node}
    (member : node ∈ tree.walkedNodes base) :
    ∃ names, node.location = base.location ++ names := by
  rcases List.mem_cons.mp member with rfl | isBelow
  · exact ⟨[], (List.append_nil _).symm⟩
  · obtain ⟨_, names, _, located, _⟩ := mem_below_iff.mp isBelow
    exact ⟨names, located⟩

theorem append_lt_append_of_name_lt
    {name other : Octets}
    (base : Location)
    (smaller : name < other)
    (names others : List Octets) :
    base ++ [name] ++ names < base ++ [other] ++ others := by
  rw [List.append_assoc, List.append_assoc]
  exact List.append_left_lt (List.cons_lt_cons_iff.mpr (.inl smaller))

/-- The blocks of the entries of a directory stand one behind the other. -/
theorem blocks_pairwise (tree : FileTree) (directory : Node) :
    ((tree.listing directory).flatMap tree.walkedNodes).Pairwise Precedes := by
  rw [List.pairwise_flatMap]
  refine ⟨fun entry _ => tree.walkedNodes_pairwise entry, ?_⟩
  refine (tree.listing_pairwise directory).imp_of_mem ?_
  intro entry later entryListed laterListed smaller node inBlock laterNode inLater
  obtain ⟨names, located⟩ := exists_names_of_mem_walkedNodes inBlock
  obtain ⟨others, laterLocated⟩ := exists_names_of_mem_walkedNodes inLater
  rw [Precedes, located, laterLocated, (mem_listing_iff.mp entryListed).2,
    (mem_listing_iff.mp laterListed).2]
  exact append_lt_append_of_name_lt directory.location smaller names others

theorem IsOpenAlong.tail
    {base : Location}
    {name : Octets}
    {names : List Octets}
    (opens : tree.IsOpenAlong base (name :: names)) :
    tree.IsOpenAlong (base ++ [name]) names := by
  intro front isFront proper around found
  rw [List.append_assoc] at found
  exact opens (name :: front) (List.cons_prefix_cons.mpr ⟨rfl, isFront⟩)
    (fun whole => proper (List.cons.inj whole).2) around found

theorem IsOpenAlong.cons
    {directory : Node}
    {name : Octets}
    {names : List Octets}
    (opens : tree.IsOpenAlong (directory.location ++ [name]) names)
    (present : tree.get? directory.location = some directory)
    (unlocked : directory.locked = false) :
    tree.IsOpenAlong directory.location (name :: names) := by
  intro front isFront proper around found
  rcases List.prefix_cons_iff.mp isFront with rfl | ⟨rest, rfl, isRest⟩
  · rw [List.append_nil, present] at found
    rwa [← Option.some.inj found]
  · refine opens rest isRest (fun whole => proper (by rw [whole])) around ?_
    rwa [List.append_assoc]

/-- What stands below an open directory stands in the block of one of its entries. -/
theorem mem_below_iff_exists_listing
    {directory node : Node}
    (present : tree.get? directory.location = some directory)
    (unlocked : directory.locked = false) :
    node ∈ tree.below directory.location ↔
      ∃ entry ∈ tree.listing directory, node ∈ tree.walkedNodes entry := by
  constructor
  · intro isBelow
    obtain ⟨nodePresent, names, nonempty, located, opens⟩ := mem_below_iff.mp isBelow
    obtain ⟨name, names, rfl⟩ := List.exists_cons_of_ne_nil nonempty
    have isListed : ∀ entry ∈ tree.nodes, entry.location = directory.location ++ [name] →
        entry ∈ tree.listing directory := by
      intro entry entryPresent entryLocated
      refine mem_listing_iff.mpr ⟨entryPresent, ?_⟩
      rw [Node.name, entryLocated, List.getLastD_concat]
    rcases eq_or_ne names [] with rfl | more
    · exact ⟨node, isListed node nodePresent located, List.mem_cons_self⟩
    · have split : node.location = directory.location ++ [name] ++ names := by
        rw [located, List.append_assoc, List.singleton_append]
      obtain ⟨entry, found, _⟩ := exists_ancestor (split ▸ get?_location nodePresent) more
      have entryLocated := location_of_get? found
      refine ⟨entry, isListed entry (mem_of_get? found (by simp)) entryLocated,
        List.mem_cons_of_mem entry (mem_below_iff.mpr ⟨nodePresent, names, more, ?_, ?_⟩)⟩
      · rw [entryLocated, split]
      · rw [entryLocated]
        exact opens.tail
  · rintro ⟨entry, isListed, member⟩
    obtain ⟨entryPresent, entryLocated⟩ := mem_listing_iff.mp isListed
    refine mem_below_iff.mpr ?_
    rcases List.mem_cons.mp member with rfl | isBelow
    · refine ⟨entryPresent, [node.name], List.cons_ne_nil _ _, entryLocated, ?_⟩
      refine IsOpenAlong.cons (fun front isFront proper => ?_) present unlocked
      exact absurd (List.prefix_nil.mp isFront) proper
    · obtain ⟨nodePresent, names, _, located, opens⟩ := mem_below_iff.mp isBelow
      rw [entryLocated] at located opens
      refine ⟨nodePresent, entry.name :: names, List.cons_ne_nil _ _, ?_,
        opens.cons present unlocked⟩
      rw [located, List.append_assoc, List.singleton_append]

/-- What stands below an open directory falls apart into one block for each entry, in
the order of their names. -/
theorem below_eq_flatMap
    {directory : Node}
    (present : tree.get? directory.location = some directory)
    (unlocked : directory.locked = false) :
    tree.below directory.location =
      (tree.listing directory).flatMap tree.walkedNodes := by
  refine (tree.below_pairwise _).eq_of_mem_iff
    (tree.blocks_pairwise directory) fun node => ?_
  rw [mem_below_iff_exists_listing present unlocked, List.mem_flatMap]

/-! ## Depth first -/

/-- The path of a node below the start of a walk. -/
def walkedPath (start : Path) (depth : Nat) (node : Node) : Path :=
  (node.location.drop depth).foldl Path.join start

theorem location_length_le_height
    {node : Node}
    (present : tree.get? node.location = some node) :
    node.location.length ≤ tree.height := by
  have bounded : ∀ nodes : List Node, node ∈ nodes →
      node.location.length ≤
        nodes.foldr (fun node height => max node.location.length height) 0 := by
    intro nodes member
    induction nodes with
    | nil => cases member
    | cons first nodes inductionHypothesis =>
        rcases List.mem_cons.mp member with rfl | later
        · exact Nat.le_max_left _ _
        · exact Nat.le_trans (inductionHypothesis later) (Nat.le_max_right _ _)
  rcases get?_eq_some_iff.mp present with ⟨atTop, _⟩ | ⟨member, _⟩
  · simp [atTop]
  · exact bounded tree.nodes member

theorem walkedPath_entry
    {directory entry node : Node}
    (path : Path)
    (isListed : entry ∈ tree.listing directory)
    (member : node ∈ tree.walkedNodes entry) :
    walkedPath (path.join entry.name) entry.location.length node =
      walkedPath path directory.location.length node := by
  obtain ⟨names, located⟩ := exists_names_of_mem_walkedNodes member
  have entryLocated := (mem_listing_iff.mp isListed).2
  have whole : node.location = directory.location ++ entry.name :: names := by
    rw [located, entryLocated, List.append_assoc, List.singleton_append]
  rw [walkedPath, walkedPath, whole, List.drop_left, ← whole, located, List.drop_left,
    List.foldl_cons]

/-- The traversal comes to the nodes of the sorted list, in its order. The induction is
on the levels, of which a directory has one more than each of its entries. -/
theorem traverse_eq_map
    {base : Node}
    {levels : Nat}
    (path : Path)
    (present : tree.get? base.location = some base)
    (enough : tree.height < base.location.length + levels) :
    tree.traverse levels path base =
      (tree.walkedNodes base).map fun node =>
        (walkedPath path base.location.length node, node) := by
  induction levels generalizing path base with
  | zero =>
      have := location_length_le_height present
      omega
  | succ levels inductionHypothesis =>
      have itself : walkedPath path base.location.length base = path :=
        by simp [walkedPath]
      rw [traverse, walkedNodes, List.map_cons, itself]
      congr 1
      cases isOpen : base.isDirectory && !base.locked with
      | false =>
          have closed : base.isDirectory = false ∨ base.locked = true := by
            rcases Bool.and_eq_false_iff.mp isOpen with noDirectory | locked
            · exact .inl noDirectory
            · exact .inr (by simpa using locked)
          rw [below_eq_nil present closed]
          rfl
      | true =>
          have unlocked : base.locked = false := by simp_all
          rw [if_pos rfl, below_eq_flatMap present unlocked, List.map_flatMap]
          refine List.flatMap_congr fun entry isListed => ?_
          obtain ⟨entryPresent, entryLocated⟩ := mem_listing_iff.mp isListed
          have deeper : entry.location.length = base.location.length + 1 := by
            rw [entryLocated, List.length_append, List.length_singleton]
          rw [inductionHypothesis _ (get?_location entryPresent) (by omega)]
          exact List.map_congr_left fun node member => by
            rw [walkedPath_entry path isListed member]

end FileTree
end ScriptAudit
