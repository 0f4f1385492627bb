import ScriptAudit.Proofs.FileTree.WalkedPaths

/-!
# Locking a node

A lock changes one node of a tree. A look-up that does not pass through the node
finds what it found before, and nothing can be looked up that could not be looked up
before. A walk comes to the same entries as before, apart from those that the locked
node encloses, and since it comes to them in the order of their locations, these are
missing from one place of the walk only.
-/

namespace ScriptAudit

open Text (Octets)

namespace Node

variable {location : Location} {node : Node}

/-- A node with a lock on it if it stands at a location. -/
def lockedAt (location : Location) (node : Node) : Node :=
  if node.location = location then { node with locked := true } else node

@[simp] theorem lockedAt_location (location : Location) (node : Node) :
    (node.lockedAt location).location = node.location := by
  unfold lockedAt
  split <;> rfl

@[simp] theorem lockedAt_entry (location : Location) (node : Node) :
    (node.lockedAt location).entry = node.entry := by
  unfold lockedAt
  split <;> rfl

theorem lockedAt_of_ne (elsewhere : node.location ≠ location) :
    node.lockedAt location = node :=
  if_neg elsewhere

theorem lockedAt_locked (here : node.location = location) :
    (node.lockedAt location).locked = true := by
  rw [lockedAt, if_pos here]

theorem locked_of_lockedAt (unlocked : (node.lockedAt location).locked = false) :
    node.location ≠ location ∧ node.locked = false := by
  have elsewhere : node.location ≠ location := fun here => by
    rw [lockedAt_locked here] at unlocked
    cases unlocked
  exact ⟨elsewhere, lockedAt_of_ne elsewhere ▸ unlocked⟩

end Node

namespace FileTree

variable {tree : FileTree} {start path : Path} {location : Location} {node image : Node}

/-! ## Look-ups in a tree with a lock -/

theorem get?_lock_eq_some_iff
    {position : Location}
    (proper : location ≠ []) :
    (tree.lock location).get? position = some image ↔
      ∃ node, tree.get? position = some node ∧ image = node.lockedAt location :=
  get?_modify_eq_some_iff (Node.lockedAt_of_ne proper.symm)

theorem origin?_lock_eq_some_iff (proper : location ≠ []) :
    (tree.lock location).origin? path = some image ↔
      ∃ node, tree.origin? path = some node ∧ image = node.lockedAt location := by
  unfold origin?
  split
  · have stays : top.lockedAt location = top := Node.lockedAt_of_ne proper.symm
    simp [stays, eq_comm]
  · exact get?_lock_eq_some_iff proper

theorem lock_mirrors (proper : location ≠ []) :
    Mirrors tree (tree.lock location) fun node image => image = node.lockedAt location :=
  modify_mirrors (Node.lockedAt_of_ne proper.symm) fun node =>
    congrArg Entry.outline (node.lockedAt_entry location)

theorem mirrors_lock (proper : location ≠ []) :
    Mirrors (tree.lock location) tree fun image node => image = node.lockedAt location :=
  mirrors_modify (Node.lockedAt_of_ne proper.symm) fun node =>
    congrArg Entry.outline (node.lockedAt_entry location)

/-- A path that does not pass through the locked location leads to what it led to
before, and to nothing else. -/
theorem status_lock_iff
    (proper : location ≠ [])
    (clear : ¬ tree.PassesThrough path location) :
    (tree.lock location).status path = .ok image ↔
      ∃ node, tree.status path = .ok node ∧ image = node.lockedAt location := by
  constructor
  · intro found
    obtain ⟨nonempty, originImage, passed, startsImage, left, run⟩ :=
      status_eq_ok_iff.mp found
    obtain ⟨origin, starts, images⟩ := (origin?_lock_eq_some_iff proper).mp startsImage
    obtain ⟨node, related, unlockedRun⟩ := run.transfer (mirrors_lock proper) images
      (by rintro _ node rfl _ unlocked; exact (Node.locked_of_lockedAt unlocked).2)
    exact ⟨node, status_eq_ok_iff.mpr ⟨nonempty, origin, passed,
      starts, left, unlockedRun⟩, related⟩
  · rintro ⟨node, found, rfl⟩
    obtain ⟨nonempty, origin, passed, starts, left, run⟩ := status_eq_ok_iff.mp found
    have avoids : location ∉ passed := fun member =>
      clear ⟨origin, passed, node, starts, ⟨left, run⟩, member⟩
    obtain ⟨_, rfl, lockedRun⟩ := run.transfer (lock_mirrors proper) rfl
      (by
        rintro other _ rfl member unlocked
        have elsewhere : other.location ≠ location := fun here => avoids (here ▸ member)
        rwa [Node.lockedAt_of_ne elsewhere])
    exact status_eq_ok_iff.mpr ⟨nonempty, _, passed,
      (origin?_lock_eq_some_iff proper).mpr ⟨origin, starts, rfl⟩, left, lockedRun⟩

/-! ## Walks in a tree with a lock -/

theorem Encloses.ne_nil
    {outer inner : Location}
    (encloses : Encloses outer inner) :
    inner ≠ [] := by
  rintro rfl
  exact encloses.2 (List.prefix_nil.mp encloses.1)

theorem Encloses.asymm
    {outer inner : Location}
    (encloses : Encloses outer inner) :
    ¬ inner <+: outer := fun isPrefix =>
  encloses.2 (encloses.1.eq_of_length_le isPrefix.length_le)

theorem Walked.encloses
    {base : Node}
    {names : List Octets}
    (walked : tree.Walked start names node)
    (begins : tree.status start = .ok base)
    (nonempty : names ≠ []) :
    Encloses base.location node.location := by
  rw [walked.location_eq begins]
  exact ⟨List.prefix_append base.location names, by simpa using nonempty⟩

/-- A lock further down does not change where a path leads. -/
theorem status_lock_of_encloses
    {base : Node}
    (begins : tree.status start = .ok base)
    (isBelow : Encloses base.location location)
    (startClear : ¬ tree.PassesThrough start location) :
    (tree.lock location).status start = .ok base :=
  (status_lock_iff isBelow.ne_nil startClear).mpr
    ⟨base, begins, (Node.lockedAt_of_ne isBelow.2).symm⟩

/-- A walk in a tree with a lock below its start comes to the same entries, apart
from those that the locked node encloses. -/
theorem walked_lock_iff
    {base : Node}
    {names : List Octets}
    (begins : tree.status start = .ok base)
    (isBelow : Encloses base.location location)
    (startClear : ¬ tree.PassesThrough start location) :
    (tree.lock location).Walked start names image ↔
      ∃ node, tree.Walked start names node ∧ ¬ Encloses location node.location ∧
        image = node.lockedAt location := by
  have proper := isBelow.ne_nil
  constructor
  · intro walked
    induction walked with
    | start found =>
        obtain ⟨node, nodeFound, images⟩ := (status_lock_iff proper startClear).mp found
        obtain rfl := Except.ok.inj (begins.symm.trans nodeFound)
        exact ⟨base, .start begins, fun encloses => isBelow.asymm encloses.1, images⟩
    | child walked isDirectory unlocked found inductionHypothesis =>
        obtain ⟨directory, directoryWalked, notEnclosed, rfl⟩ := inductionHypothesis
        obtain ⟨node, nodeFound, images⟩ := (get?_lock_eq_some_iff proper).mp found
        rw [Node.lockedAt_location] at nodeFound
        obtain ⟨elsewhere, opens⟩ := Node.locked_of_lockedAt unlocked
        have isOpen : directory.isDirectory := by
          simpa [Node.isDirectory] using isDirectory
        refine ⟨node, .child directoryWalked isOpen opens nodeFound, ?_, images⟩
        rw [location_of_get? nodeFound, encloses_concat_iff]
        exact fun isPrefix => notEnclosed ⟨isPrefix, elsewhere.symm⟩
  · rintro ⟨node, walked, notEnclosed, rfl⟩
    induction walked with
    | start found =>
        exact .start ((status_lock_iff proper startClear).mpr ⟨_, found, rfl⟩)
    | @child names directory name node walked isDirectory unlocked found
        inductionHypothesis =>
        rw [location_of_get? found, encloses_concat_iff] at notEnclosed
        have elsewhere : directory.location ≠ location := by
          rintro rfl
          exact notEnclosed List.prefix_rfl
        have earlier := inductionHypothesis fun encloses => notEnclosed encloses.1
        rw [Node.lockedAt_of_ne elsewhere] at earlier
        exact .child earlier isDirectory unlocked
          ((get?_lock_eq_some_iff proper).mpr ⟨node, found, rfl⟩)

/-- A walk still comes to the node that is locked. -/
theorem Walked.lock
    {base : Node}
    {names : List Octets}
    (walked : tree.Walked start names node)
    (begins : tree.status start = .ok base)
    (nonempty : names ≠ [])
    (startClear : ¬ tree.PassesThrough start node.location) :
    (tree.lock node.location).Walked start names (node.lockedAt node.location) :=
  (walked_lock_iff begins (walked.encloses begins nonempty) startClear).mpr
    ⟨node, walked, fun encloses => encloses.2 rfl, rfl⟩

/-- No link that stands outside of a location leads to it or through it. -/
def LinksAvoid (tree : FileTree) (location : Location) : Prop :=
  ∀ link ∈ tree.nodes, ¬ location <+: link.location → ¬ tree.LinkReaches link location

theorem Walked.not_linkReaches
    {names : List Octets}
    (walked : tree.Walked start names node)
    (linksAvoid : tree.LinksAvoid location)
    (outside : ¬ location <+: node.location) :
    ¬ tree.LinkReaches node location := by
  intro reaches
  obtain ⟨_, around, name, _, _, _, located, _⟩ := id reaches
  have present : node ∈ tree.nodes :=
    mem_of_get? walked.get?_location (by simp [located])
  exact linksAvoid node present outside reaches

/-- The path of an entry outside of a location leads to the same node when the
location is locked, and this node is not the locked one. -/
theorem Walked.status_lock_iff_of_outside
    {names : List Octets}
    {found : Node}
    (walked : tree.Walked start names node)
    (proper : location ≠ [])
    (startClear : ¬ tree.PassesThrough start location)
    (linksAvoid : tree.LinksAvoid location)
    (outside : ¬ location <+: node.location) :
    (tree.lock location).status (start.descend names) = .ok found ↔
      tree.status (start.descend names) = .ok found := by
  have noReach := walked.not_linkReaches linksAvoid outside
  have clear : ¬ tree.PassesThrough (start.descend names) location := by
    rintro ⟨origin, passed, other, starts, leads, member⟩
    rcases (walked.leads_cases starts leads).1 location member with
      atStart | encloses | reaches
    · exact startClear atStart
    · exact outside encloses.1
    · exact noReach reaches
  have elsewhere : ∀ other, tree.status (start.descend names) = .ok other →
      other.lockedAt location = other := by
    intro other leadsTo
    obtain ⟨_, origin, passed, starts, leads⟩ := status_eq_ok_iff.mp leadsTo
    refine Node.lockedAt_of_ne ?_
    rintro rfl
    rcases (walked.leads_cases starts leads).2 with rfl | reaches
    · exact outside List.prefix_rfl
    · exact noReach reaches
  rw [status_lock_iff proper clear]
  constructor
  · rintro ⟨other, leadsTo, rfl⟩
    rwa [elsewhere other leadsTo]
  · intro leadsTo
    exact ⟨found, leadsTo, (elsewhere found leadsTo).symm⟩

/-! ## The place of a location in a walk -/

/-- The nodes before everything at or below a location. -/
def before (location : Location) (nodes : List Node) : List Node :=
  nodes.filter fun node => node.location < location

/-- The nodes at or below a location. -/
def within (location : Location) (nodes : List Node) : List Node :=
  nodes.filter fun node => location <+: node.location

/-- The nodes behind everything at or below a location. -/
def behind (location : Location) (nodes : List Node) : List Node :=
  nodes.filter fun node => location < node.location ∧ ¬ location <+: node.location

theorem append_lt_of_not_isPrefix
    {first second : Location}
    (less : first < second)
    (noPrefix : ¬ first <+: second)
    (more : List Octets) :
    first ++ more < second := by
  induction first generalizing second with
  | nil => exact absurd List.nil_prefix noPrefix
  | cons name first inductionHypothesis =>
      cases second with
      | nil => exact absurd less (List.not_lt_nil _)
      | cons other second =>
          rw [List.cons_append, List.cons_lt_cons_iff]
          rcases List.cons_lt_cons_iff.mp less with smaller | ⟨rfl, later⟩
          · exact .inl smaller
          · refine .inr ⟨rfl, inductionHypothesis later fun isPrefix => noPrefix ?_⟩
            exact (List.prefix_cons_inj name).mpr isPrefix

theorem le_of_isPrefix
    {first second : Location}
    (isPrefix : first <+: second) :
    first ≤ second := by
  obtain ⟨more, rfl⟩ := isPrefix
  rcases eq_or_ne more [] with rfl | nonempty
  · rw [List.append_nil]
    exact List.le_refl first
  · exact List.le_of_lt (lt_append_of_ne_nil first nonempty)

/-- What stands at or below a location can only be at one place of a sorted list. -/
theorem pairwise_blocks
    {nodes block : List Node}
    (sorted : nodes.Pairwise Precedes)
    (blockSorted : block.Pairwise Precedes)
    (isWithin : ∀ node ∈ block, location <+: node.location) :
    (before location nodes ++ block ++ behind location nodes).Pairwise Precedes := by
  have isBefore : ∀ node ∈ before location nodes, node.location < location := by
    simp [before]
  have isBehind : ∀ node ∈ behind location nodes,
      location < node.location ∧ ¬ location <+: node.location := by
    intro node member
    simpa using (List.mem_filter.mp member).2
  rw [List.append_assoc, List.pairwise_append, List.pairwise_append]
  refine ⟨sorted.filter _, ⟨blockSorted, sorted.filter _, ?_⟩, ?_⟩
  · intro first inBlock second later
    obtain ⟨more, located⟩ := isWithin first inBlock
    obtain ⟨less, noPrefix⟩ := isBehind second later
    rw [Precedes, ← located]
    exact append_lt_of_not_isPrefix less noPrefix more
  · intro first earlier second member
    have less := isBefore first earlier
    rcases List.mem_append.mp member with inBlock | later
    · exact Std.lt_of_lt_of_le less (le_of_isPrefix (isWithin second inBlock))
    · exact List.lt_trans less (isBehind second later).1

theorem mem_before_or_behind_iff {nodes : List Node} :
    node ∈ before location nodes ∨ node ∈ behind location nodes ↔
      node ∈ nodes ∧ ¬ location <+: node.location := by
  simp only [before, behind, List.mem_filter, decide_eq_true_eq, ← and_or_left]
  refine and_congr_right fun _ => ⟨?_, fun outside => ?_⟩
  · rintro (less | ⟨_, outside⟩)
    · exact fun isPrefix => le_of_isPrefix isPrefix less
    · exact outside
  · by_cases less : node.location < location
    · exact .inl less
    · have different : location ≠ node.location := by
        rintro rfl
        exact outside List.prefix_rfl
      exact .inr ⟨Std.lt_of_le_of_ne less different, outside⟩

/-- A sorted list that differs from another one only in what stands at or below a
location has the same nodes around it. -/
theorem eq_blocks
    {nodes others block : List Node}
    (sorted : nodes.Pairwise Precedes)
    (othersSorted : others.Pairwise Precedes)
    (blockSorted : block.Pairwise Precedes)
    (isWithin : ∀ node ∈ block, location <+: node.location)
    (members : ∀ node, node ∈ others ↔
      (node ∈ nodes ∧ ¬ location <+: node.location) ∨ node ∈ block) :
    others = before location nodes ++ block ++ behind location nodes := by
  refine othersSorted.eq_of_mem_iff (pairwise_blocks sorted blockSorted isWithin) ?_
  intro node
  rw [members, ← mem_before_or_behind_iff, List.mem_append, List.mem_append]
  tauto

/-- A walk comes to everything at or below a location in one go. -/
theorem walkedNodes_eq_blocks
    (tree : FileTree)
    (base : Node)
    (location : Location) :
    tree.walkedNodes base =
      before location (tree.walkedNodes base) ++
        within location (tree.walkedNodes base) ++
        behind location (tree.walkedNodes base) := by
  have sorted := tree.walkedNodes_pairwise base
  have blockSorted : (within location (tree.walkedNodes base)).Pairwise Precedes :=
    sorted.filter _
  refine eq_blocks sorted sorted blockSorted (by simp [within]) fun node => ?_
  simp only [within, List.mem_filter, decide_eq_true_eq]
  tauto

/-- With a node locked, a walk comes to this node in place of everything at or below
it. -/
theorem walkedNodes_lock
    {base : Node}
    {names : List Octets}
    (begins : tree.status start = .ok base)
    (walked : tree.Walked start names node)
    (nonempty : names ≠ [])
    (startClear : ¬ tree.PassesThrough start node.location) :
    (tree.lock node.location).walkedNodes base =
      before node.location (tree.walkedNodes base) ++ [node.lockedAt node.location] ++
        behind node.location (tree.walkedNodes base) := by
  have isBelow := walked.encloses begins nonempty
  have lockedBegins := status_lock_of_encloses begins isBelow startClear
  refine eq_blocks (tree.walkedNodes_pairwise base) (walkedNodes_pairwise _ base)
    (List.pairwise_singleton ..) (by simp) ?_
  intro image
  simp only [mem_walkedNodes_iff lockedBegins, mem_walkedNodes_iff begins,
    walked_lock_iff begins isBelow startClear, List.mem_singleton]
  constructor
  · rintro ⟨others, other, otherWalked, notEnclosed, rfl⟩
    by_cases isPrefix : node.location <+: other.location
    · have here : node.location = other.location := by
        by_contra different
        exact notEnclosed ⟨isPrefix, different⟩
      have found := otherWalked.get?_location
      rw [← here, walked.get?_location] at found
      exact .inr (by rw [Option.some.inj found])
    · have elsewhere : other.location ≠ node.location := fun here =>
        isPrefix (here ▸ List.prefix_rfl)
      rw [Node.lockedAt_of_ne elsewhere]
      exact .inl ⟨⟨others, otherWalked⟩, isPrefix⟩
  · rintro (⟨⟨others, otherWalked⟩, outside⟩ | rfl)
    · have elsewhere : image.location ≠ node.location := fun here =>
        outside (here ▸ List.prefix_rfl)
      exact ⟨others, image, otherWalked, fun encloses => outside encloses.1,
        (Node.lockedAt_of_ne elsewhere).symm⟩
    · exact ⟨names, node, walked, fun encloses => encloses.2 rfl, rfl⟩

/-! ## Visits around a lock -/

section

variable {base : Node} {names : List Octets}

/-- A node stands at or below another one exactly when this holds of the paths by
which a walk comes to them. -/
theorem Walked.within_iff
    {other : Node}
    {others : List Octets}
    (walked : tree.Walked start names node)
    (nonempty : names ≠ [])
    (otherWalked : tree.Walked start others other) :
    Path.Within (start.descend names) (start.descend others) ↔
      node.location <+: other.location := by
  obtain ⟨base, begins⟩ := walked.exists_status
  rw [Path.within_descend_iff nonempty (fun _ => walked.isName_of_mem)
      (fun _ => otherWalked.isName_of_mem),
    walked.location_eq begins, otherWalked.location_eq begins,
    List.prefix_append_right_inj]

/-- The visits that some of the nodes of a walk cause. -/
def visitsAt (start : Path) (base : Node) (nodes : List Node) : List Visit :=
  nodes.flatMap (visitsOf start base.location.length)

theorem exists_of_mem_visitsAt
    {nodes : List Node}
    {visited : Visit}
    (begins : tree.status start = .ok base)
    (areWalked : nodes ⊆ tree.walkedNodes base)
    (member : visited ∈ visitsAt start base nodes) :
    ∃ names, ∃ node ∈ nodes, tree.Walked start names node ∧
      visited.path = start.descend names := by
  obtain ⟨node, present, isVisit⟩ := List.mem_flatMap.mp member
  obtain ⟨names, walked⟩ := (mem_walkedNodes_iff begins).mp (areWalked present)
  refine ⟨names, node, present, walked, ?_⟩
  rw [path_of_mem_visitsOf isVisit, walked.walkedPath_eq begins]

theorem visitsAt_append
    (start : Path)
    (base : Node)
    (first second : List Node) :
    visitsAt start base (first ++ second) =
      visitsAt start base first ++ visitsAt start base second :=
  List.flatMap_append

/-- The visits to everything at or below a location stand in one place of a walk. -/
theorem walk_eq_blocks
    (begins : tree.status start = .ok base)
    (location : Location) :
    tree.walk start =
      visitsAt start base (before location (tree.walkedNodes base)) ++
        visitsAt start base (within location (tree.walkedNodes base)) ++
        visitsAt start base (behind location (tree.walkedNodes base)) := by
  rw [← visitsAt_append, ← visitsAt_append, ← tree.walkedNodes_eq_blocks base location]
  exact walk_of_status_ok begins

/-- When a node is locked, the visits before and behind it are the same. -/
theorem walk_lock_eq_blocks
    (begins : tree.status start = .ok base)
    (walked : tree.Walked start names node)
    (nonempty : names ≠ [])
    (startClear : ¬ tree.PassesThrough start node.location) :
    (tree.lock node.location).walk start =
      visitsAt start base (before node.location (tree.walkedNodes base)) ++
        visitsAt start base [node.lockedAt node.location] ++
        visitsAt start base (behind node.location (tree.walkedNodes base)) := by
  rw [← visitsAt_append, ← visitsAt_append,
    ← walkedNodes_lock begins walked nonempty startClear]
  exact walk_of_status_ok
    (status_lock_of_encloses begins (walked.encloses begins nonempty) startClear)

/-- A visit is made within the path of a node exactly when it is caused by a node that
stands at or below it. -/
theorem exists_within_iff
    {nodes : List Node}
    {visited : Visit}
    (begins : tree.status start = .ok base)
    (walked : tree.Walked start names node)
    (nonempty : names ≠ [])
    (areWalked : nodes ⊆ tree.walkedNodes base)
    (member : visited ∈ visitsAt start base nodes) :
    ∃ other ∈ nodes, Path.Within (start.descend names) visited.path ↔
      node.location <+: other.location := by
  obtain ⟨others, other, present, otherWalked, samePath⟩ :=
    exists_of_mem_visitsAt begins areWalked member
  refine ⟨other, present, ?_⟩
  rw [samePath, walked.within_iff nonempty otherWalked]

/-- A file is visited once. -/
theorem visitsAt_file
    {content : Octets}
    (begins : tree.status start = .ok base)
    (walked : tree.Walked start names node)
    (isFile : node.entry = .file content) :
    visitsAt start base [node] = [.reached (start.descend names)] := by
  simp [visitsAt, visitsOf, Node.visits, Node.isDirectory, isFile,
    walked.walkedPath_eq begins]

/-- Nothing but a file itself stands at or below it. -/
theorem within_file_eq
    {content : Octets}
    (begins : tree.status start = .ok base)
    (walked : tree.Walked start names node)
    (isFile : node.entry = .file content) :
    within node.location (tree.walkedNodes base) = [node] := by
  have sorted : (within node.location (tree.walkedNodes base)).Pairwise Precedes :=
    (tree.walkedNodes_pairwise base).filter _
  refine sorted.eq_of_mem_iff (List.pairwise_singleton ..) fun other => ?_
  rw [within, List.mem_filter, decide_eq_true_eq, mem_walkedNodes_iff begins,
    List.mem_singleton]
  constructor
  · rintro ⟨⟨others, otherWalked⟩, more, located⟩
    have found := otherWalked.get?_location
    rw [← located] at found
    rcases eq_or_ne more [] with rfl | nonempty
    · rw [List.append_nil, walked.get?_location] at found
      exact (Option.some.inj found).symm
    · obtain ⟨ancestor, ancestorFound, isDirectory⟩ := exists_ancestor found nonempty
      rw [walked.get?_location] at ancestorFound
      rw [← Option.some.inj ancestorFound, isDirectory_iff, isFile] at isDirectory
      cases isDirectory
  · rintro rfl
    exact ⟨⟨names, walked⟩, List.prefix_rfl⟩

end

end FileTree
end ScriptAudit
