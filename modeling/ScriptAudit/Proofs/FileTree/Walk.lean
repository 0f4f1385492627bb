import ScriptAudit.Proofs.FileTree.Lookup
import ScriptAudit.Proofs.FileTree.Traversal
import ScriptAudit.Proofs.Path.Names

/-!
# What a walk visits

A walk comes to its start and, from every directory that it comes to and can look
into, to everything in that directory. This is the relation `Walked`; it says
nothing about order. The visits of `walk` are exactly those of the entries it
comes to, none of them twice, and the entries stand in the order of their locations.
-/

namespace ScriptAudit

open Text (Octets)

namespace Visit

/-- The path of a visit. -/
def path : Visit → Path
  | .reached path => path
  | .failed path _ => path

/-- Whether a visit came to an entry. -/
def isReached : Visit → Bool
  | .reached _ => true
  | .failed .. => false

end Visit

namespace FileTree

/-- The entries that a walk comes to, each with the names that lead to it from the
start. A link is followed at the start only, since no link is a directory. -/
inductive Walked (tree : FileTree) (start : Path) : List Octets → Node → Prop
  | start {node}
      (found : tree.status start = .ok node) :
      Walked tree start [] node
  | child {names directory name node}
      (walked : Walked tree start names directory)
      (isDirectory : directory.isDirectory)
      (unlocked : directory.locked = false)
      (found : tree.get? (directory.location ++ [name]) = some node) :
      Walked tree start (names ++ [name]) node

variable {tree : FileTree} {start : Path}

/-! ## The start of a walk -/

theorem place_itself
    (tree : FileTree)
    (path : Path) :
    tree.place .itself path = tree.place .followed path ∨
      ∃ link target, tree.place .itself path = .ok (.present link) ∧
        link.entry = .link target := by
  unfold place
  split
  · exact .inl rfl
  · unfold follow
    cases tree.origin? path with
    | none => exact .inl rfl
    | some origin => exact locate_itself linkLimit origin (steps path)

/-- A walk depends on its start only through where it leads, links followed. -/
theorem walk_eq (tree : FileTree) (start : Path) :
    tree.walk start =
      match tree.status start with
      | .error error => [.failed start error]
      | .ok node =>
          if node.isDirectory then tree.visitsFrom start node else [.reached start] := by
  rcases place_itself tree start with same | ⟨link, target, found, isLink⟩
  · have sameStatus : tree.linkStatus start = tree.status start := by
      rw [linkStatus, status, nodeAt, nodeAt, same]
    rw [walk, sameStatus]
    cases tree.status start with
    | error error => rfl
    | ok node => cases entry : node.entry <;> simp [Node.isDirectory, entry]
  · have linkFound : tree.linkStatus start = .ok link := nodeAt_eq_ok_iff.mpr found
    rw [walk, linkFound]
    cases tree.status start <;> simp [isLink]

theorem Step.get?_location
    {first next : Lookup}
    (step : Step tree first next)
    (present : tree.get? first.node.location = some first.node) :
    tree.get? next.node.location = some next.node := by
  cases step with
  | idle | stay => exact present
  | climb _ _ found => rwa [location_of_get? found]
  | enter _ _ _ found _ => rwa [location_of_get? found]
  | follow =>
      unfold linkOrigin
      split
      · rfl
      · exact present

theorem Run.get?_location
    {first last : Lookup}
    {passed : List Location}
    (run : Run tree first passed last)
    (present : tree.get? first.node.location = some first.node) :
    tree.get? last.node.location = some last.node := by
  induction run with
  | rest lookup => exact present
  | move step run inductionHypothesis =>
      exact inductionHypothesis (step.get?_location present)

theorem origin?_get?_location
    {path : Path}
    {origin : Node}
    (starts : tree.origin? path = some origin) :
    tree.get? origin.location = some origin := by
  unfold origin? at starts
  split at starts
  · obtain rfl := Option.some.inj starts
    rfl
  · rwa [location_of_get? starts]

/-- What a path leads to stands in the tree. -/
theorem status_get?_location
    {path : Path}
    {node : Node}
    (found : tree.status path = .ok node) :
    tree.get? node.location = some node := by
  obtain ⟨_, origin, passed, starts, left, run⟩ := status_eq_ok_iff.mp found
  exact run.get?_location (origin?_get?_location starts)

namespace Walked

variable {names : List Octets} {node base : Node}

theorem get?_location (walked : tree.Walked start names node) :
    tree.get? node.location = some node := by
  cases walked with
  | start found => exact status_get?_location found
  | child walked isDirectory unlocked found => rwa [location_of_get? found]

theorem location_eq
    (walked : tree.Walked start names node)
    (begins : tree.status start = .ok base) :
    node.location = base.location ++ names := by
  induction walked with
  | start found =>
      obtain rfl := Except.ok.inj (found.symm.trans begins)
      rw [List.append_nil]
  | child walked isDirectory unlocked found inductionHypothesis =>
      rw [location_of_get? found, inductionHypothesis, List.append_assoc]

theorem exists_status (walked : tree.Walked start names node) :
    ∃ base, tree.status start = .ok base := by
  induction walked with
  | start found => exact ⟨_, found⟩
  | child _ _ _ _ inductionHypothesis => exact inductionHypothesis

theorem isName_of_mem
    {name : Octets}
    (walked : tree.Walked start names node)
    (member : name ∈ names) :
    Path.IsName name := by
  obtain ⟨base, begins⟩ := walked.exists_status
  have found := walked.get?_location
  rw [walked.location_eq begins] at found
  exact FileTree.isName_of_mem found (List.mem_append_right base.location member)

/-- The names that lead to an entry lead to no other one. -/
theorem unique
    {other : Node}
    (walked : tree.Walked start names node)
    (otherWalked : tree.Walked start names other) :
    node = other := by
  obtain ⟨base, begins⟩ := walked.exists_status
  have found := walked.get?_location
  rw [walked.location_eq begins, ← otherWalked.location_eq begins,
    otherWalked.get?_location] at found
  exact (Option.some.inj found).symm

end Walked

theorem Walked.isOpenAlong
    {names : List Octets}
    {node base : Node}
    (walked : tree.Walked start names node)
    (begins : tree.status start = .ok base) :
    tree.IsOpenAlong base.location names := by
  induction walked with
  | start found =>
      intro front isFront proper
      exact absurd (List.prefix_nil.mp isFront) proper
  | child walked isDirectory unlocked found inductionHypothesis =>
      refine inductionHypothesis.concat ?_ unlocked
      rw [← walked.location_eq begins]
      exact walked.get?_location

/-- Whatever stands at the end of an open way is walked to. -/
theorem IsOpenAlong.walked
    {names : List Octets}
    {node base : Node}
    (opens : tree.IsOpenAlong base.location names)
    (begins : tree.status start = .ok base)
    (found : tree.get? (base.location ++ names) = some node) :
    tree.Walked start names node := by
  induction names using List.reverseRecOn generalizing node with
  | nil =>
      rw [List.append_nil, status_get?_location begins] at found
      exact .start (Option.some.inj found ▸ begins)
  | append_singleton names name inductionHypothesis =>
      rw [← List.append_assoc] at found
      obtain ⟨_, parent, parentFound, isDirectory⟩ := exists_parent found
      have unlocked : parent.locked = false :=
        opens names (List.prefix_append names [name]) (by simp) parent parentFound
      refine .child (inductionHypothesis opens.of_append parentFound)
        isDirectory unlocked ?_
      rwa [location_of_get? parentFound]

/-- What can be walked to below the start is what stands below where it leads. -/
theorem walked_iff_mem_below
    {names : List Octets}
    {node base : Node}
    (begins : tree.status start = .ok base)
    (nonempty : names ≠ []) :
    tree.Walked start names node ↔
      node ∈ tree.below base.location ∧ node.location = base.location ++ names := by
  constructor
  · intro walked
    have located := walked.location_eq begins
    have present : node ∈ tree.nodes :=
      mem_of_get? walked.get?_location (by simp [located, nonempty])
    exact ⟨mem_below_iff.mpr ⟨present, names, nonempty, located,
      walked.isOpenAlong begins⟩, located⟩
  · rintro ⟨isBelow, located⟩
    obtain ⟨present, others, _, otherLocated, opens⟩ := mem_below_iff.mp isBelow
    obtain rfl : names = others :=
      List.append_cancel_left (located.symm.trans otherLocated)
    exact opens.walked begins (located ▸ get?_location present)

/-- The nodes that a walk comes to are those that are walked to. -/
theorem mem_walkedNodes_iff
    {node base : Node}
    (begins : tree.status start = .ok base) :
    node ∈ tree.walkedNodes base ↔ ∃ names, tree.Walked start names node := by
  constructor
  · intro member
    rcases List.mem_cons.mp member with rfl | isBelow
    · exact ⟨[], .start begins⟩
    · obtain ⟨_, names, nonempty, located, _⟩ := mem_below_iff.mp isBelow
      exact ⟨names, (walked_iff_mem_below begins nonempty).mpr ⟨isBelow, located⟩⟩
  · rintro ⟨names, walked⟩
    rcases eq_or_ne names [] with rfl | nonempty
    · rw [walked.unique (.start begins)]
      exact List.mem_cons_self
    · exact List.mem_cons_of_mem base ((walked_iff_mem_below begins nonempty).mp walked).1

/-! ## The visits of a walk -/

/-- The visits that a node below the start of a walk causes. -/
def visitsOf (start : Path) (depth : Nat) (node : Node) : List Visit :=
  node.visits (walkedPath start depth node)

/-- A walk visits the nodes that it comes to one after the other. -/
theorem walk_of_status_ok
    {base : Node}
    (begins : tree.status start = .ok base) :
    tree.walk start =
      (tree.walkedNodes base).flatMap (visitsOf start base.location.length) := by
  have present := status_get?_location begins
  rw [walk_eq, begins]
  dsimp only
  cases isDirectory : base.isDirectory with
  | true =>
      rw [if_pos rfl, visitsFrom,
        traverse_eq_map start present (by omega), List.flatMap_map]
      rfl
  | false =>
      have itself : walkedPath start base.location.length base = start :=
        by simp [walkedPath]
      simp [walkedNodes, below_eq_nil present (.inl isDirectory), visitsOf, Node.visits,
        isDirectory, itself]

theorem Walked.walkedPath_eq
    {names : List Octets}
    {node base : Node}
    (walked : tree.Walked start names node)
    (begins : tree.status start = .ok base) :
    walkedPath start base.location.length node = start.descend names := by
  rw [walkedPath, walked.location_eq begins, List.drop_left, Path.descend]

/-- A walk reaches exactly the paths of the entries that are walked to. -/
theorem reached_mem_walk_iff {path : Path} :
    .reached path ∈ tree.walk start ↔
      ∃ names node, tree.Walked start names node ∧ path = start.descend names := by
  cases status : tree.status start with
  | error error =>
      rw [walk_eq, status]
      constructor
      · simp
      · rintro ⟨names, node, walked, _⟩
        obtain ⟨base, begins⟩ := walked.exists_status
        rw [status] at begins
        cases begins
  | ok base =>
      rw [walk_of_status_ok status, List.mem_flatMap]
      constructor
      · rintro ⟨node, member, visited⟩
        obtain ⟨names, walked⟩ := (mem_walkedNodes_iff status).mp member
        refine ⟨names, node, walked, ?_⟩
        rw [← walked.walkedPath_eq status]
        unfold visitsOf Node.visits at visited
        split at visited <;> simpa using visited
      · rintro ⟨names, node, walked, rfl⟩
        refine ⟨node, (mem_walkedNodes_iff status).mpr ⟨names, walked⟩, ?_⟩
        rw [← walked.walkedPath_eq status]
        unfold visitsOf Node.visits
        split <;> simp

/-- A walk fails at a start that leads nowhere and at every locked directory that
it comes to. -/
theorem failed_mem_walk_iff
    {path : Path}
    {error : OsError} :
    .failed path error ∈ tree.walk start ↔
      path = start ∧ tree.status start = .error error ∨
        ∃ names directory, tree.Walked start names directory ∧
          directory.isDirectory ∧ directory.locked ∧
          path = start.descend names ∧ error = .denied := by
  cases status : tree.status start with
  | error other =>
      rw [walk_eq, status]
      constructor
      · intro member
        obtain ⟨rfl, rfl⟩ : path = start ∧ error = other := by simpa using member
        exact .inl ⟨rfl, rfl⟩
      · rintro (⟨rfl, same⟩ | ⟨names, node, walked, _⟩)
        · obtain rfl := Except.error.inj same
          exact List.mem_singleton_self _
        · obtain ⟨base, begins⟩ := walked.exists_status
          rw [status] at begins
          cases begins
  | ok base =>
      rw [walk_of_status_ok status, List.mem_flatMap]
      constructor
      · rintro ⟨node, member, visited⟩
        obtain ⟨names, walked⟩ := (mem_walkedNodes_iff status).mp member
        unfold visitsOf Node.visits at visited
        rw [walked.walkedPath_eq status] at visited
        split at visited
        · rename_i closed
          obtain ⟨isDirectory, locked⟩ := Bool.and_eq_true_iff.mp closed
          obtain ⟨rfl, rfl⟩ : path = start.descend names ∧ error = .denied := by
            simpa using visited
          exact .inr ⟨names, node, walked, isDirectory, locked, rfl, rfl⟩
        · simp at visited
      · rintro (⟨_, impossible⟩ | ⟨names, node, walked, isDirectory, locked, rfl, rfl⟩)
        · cases impossible
        · refine ⟨node, (mem_walkedNodes_iff status).mpr ⟨names, walked⟩, ?_⟩
          rw [visitsOf, Node.visits, walked.walkedPath_eq status]
          simp [isDirectory, locked]

/-- Every path that a walk visits leads from its start through names. -/
theorem exists_descend_of_mem_walk
    {visited : Visit}
    (member : visited ∈ tree.walk start) :
    ∃ names, (∀ name ∈ names, Path.IsName name) ∧ visited.path = start.descend names := by
  cases visited with
  | reached path =>
      obtain ⟨names, node, walked, rfl⟩ := reached_mem_walk_iff.mp member
      exact ⟨names, fun name => walked.isName_of_mem, rfl⟩
  | failed path error =>
      rcases failed_mem_walk_iff.mp member
        with ⟨rfl, _⟩ | ⟨names, _, walked, _, _, rfl, _⟩
      · exact ⟨[], by simp, rfl⟩
      · exact ⟨names, fun name => walked.isName_of_mem, rfl⟩

theorem path_of_mem_visitsOf
    {depth : Nat}
    {node : Node}
    {visit : Visit}
    (member : visit ∈ visitsOf start depth node) :
    visit.path = walkedPath start depth node := by
  unfold visitsOf Node.visits at member
  split at member
  · rcases List.mem_pair.mp member with rfl | rfl <;> rfl
  · obtain rfl := List.mem_singleton.mp member
    rfl

/-- No visit of a walk is made twice. -/
theorem walk_nodup (tree : FileTree) (start : Path) : (tree.walk start).Nodup := by
  cases status : tree.status start with
  | error error => simp [walk_eq, status]
  | ok base =>
      rw [walk_of_status_ok status, List.nodup_flatMap]
      refine ⟨fun node _ => by unfold visitsOf Node.visits; split <;> simp, ?_⟩
      refine (tree.walkedNodes_pairwise base).imp_of_mem ?_
      intro first second firstMember secondMember inOrder visit atFirst atSecond
      obtain ⟨names, walked⟩ := (mem_walkedNodes_iff status).mp firstMember
      obtain ⟨others, otherWalked⟩ := (mem_walkedNodes_iff status).mp secondMember
      -- a visit at two nodes would give both the same path, hence the same names
      have samePath : start.descend names = start.descend others := by
        rw [← walked.walkedPath_eq status, ← otherWalked.walkedPath_eq status,
          ← path_of_mem_visitsOf atFirst, ← path_of_mem_visitsOf atSecond]
      obtain rfl := Path.descend_injective (fun _ => walked.isName_of_mem)
        (fun _ => otherWalked.isName_of_mem) samePath
      rw [walked.unique otherWalked] at inOrder
      exact List.lt_irrefl _ inOrder

/-! ## The entries of a walk -/

/-- The entries that a walk comes to, in order, each with the names that lead to it from
the start. -/
def walkedEntries (tree : FileTree) (start : Path) : List (List Octets × Node) :=
  match tree.status start with
  | .error _ => []
  | .ok base =>
      (tree.walkedNodes base).map fun node =>
        (node.location.drop base.location.length, node)

theorem walkedEntries_of_status_ok
    {base : Node}
    (begins : tree.status start = .ok base) :
    tree.walkedEntries start =
      (tree.walkedNodes base).map fun node =>
        (node.location.drop base.location.length, node) := by
  rw [walkedEntries, begins]

theorem mem_walkedEntries_iff
    {names : List Octets}
    {node : Node} :
    (names, node) ∈ tree.walkedEntries start ↔ tree.Walked start names node := by
  cases status : tree.status start with
  | error error =>
      rw [walkedEntries, status]
      constructor
      · simp
      · intro walked
        obtain ⟨base, begins⟩ := walked.exists_status
        rw [status] at begins
        cases begins
  | ok base =>
      rw [walkedEntries_of_status_ok status, List.mem_map]
      constructor
      · rintro ⟨other, member, same⟩
        obtain ⟨rfl, rfl⟩ := Prod.mk.inj same
        obtain ⟨names, walked⟩ := (mem_walkedNodes_iff status).mp member
        rwa [walked.location_eq status, List.drop_left]
      · intro walked
        refine ⟨node, (mem_walkedNodes_iff status).mpr ⟨names, walked⟩, ?_⟩
        rw [walked.location_eq status, List.drop_left]

theorem lt_of_append_lt_append
    {first second : List Octets}
    (base : Location)
    (inOrder : base ++ first < base ++ second) :
    first < second := by
  induction base with
  | nil => exact inOrder
  | cons name base inductionHypothesis =>
      rcases List.cons_lt_cons_iff.mp inOrder with smaller | ⟨_, later⟩
      · exact absurd smaller (List.lt_irrefl name)
      · exact inductionHypothesis later

/-- A walk comes to its entries in the order of the names that lead to them. -/
theorem walkedEntries_pairwise (tree : FileTree) (start : Path) :
    (tree.walkedEntries start).Pairwise fun first second => first.1 < second.1 := by
  cases status : tree.status start with
  | error error => simp [walkedEntries, status]
  | ok base =>
      rw [walkedEntries_of_status_ok status, List.pairwise_map]
      refine (tree.walkedNodes_pairwise base).imp_of_mem ?_
      intro first second firstMember secondMember inOrder
      obtain ⟨names, walked⟩ := (mem_walkedNodes_iff status).mp firstMember
      obtain ⟨others, otherWalked⟩ := (mem_walkedNodes_iff status).mp secondMember
      rw [Precedes, walked.location_eq status, otherWalked.location_eq status] at inOrder
      rw [walked.location_eq status, otherWalked.location_eq status, List.drop_left,
        List.drop_left]
      exact lt_of_append_lt_append base.location inOrder

theorem walkedEntries_nodup (tree : FileTree) (start : Path) :
    (tree.walkedEntries start).Nodup := by
  refine (tree.walkedEntries_pairwise start).imp ?_
  rintro first second inOrder rfl
  exact List.lt_irrefl _ inOrder

/-- The visits that an entry causes. -/
def visitsTo (start : Path) (entry : List Octets × Node) : List Visit :=
  entry.2.visits (start.descend entry.1)

/-- A walk visits its entries one after the other. -/
theorem walk_eq_visitsTo
    {base : Node}
    (begins : tree.status start = .ok base) :
    tree.walk start = (tree.walkedEntries start).flatMap (visitsTo start) := by
  rw [walk_of_status_ok begins, walkedEntries_of_status_ok begins, List.flatMap_map]
  rfl

/-- The visits that come to an entry are those of the entries, in their order. -/
theorem filter_isReached_walk (tree : FileTree) (start : Path) :
    (tree.walk start).filter Visit.isReached =
      (tree.walkedEntries start).map fun entry => .reached (start.descend entry.1) := by
  cases status : tree.status start with
  | error error => simp [walk_eq, walkedEntries, status, Visit.isReached]
  | ok base =>
      have ofEntry : ∀ entry, (visitsTo start entry).filter Visit.isReached =
          [.reached (start.descend entry.1)] := by
        intro entry
        unfold visitsTo Node.visits
        split <;> rfl
      rw [walk_eq_visitsTo status, List.filter_flatMap, List.map_eq_flatMap]
      simp only [ofEntry]

/-- The entries that are walked to and the visits that come to an entry correspond
one to one. -/
theorem exists_entries_of_walk (tree : FileTree) (start : Path) :
    ∃ entries : List (List Octets × Node), entries.Nodup ∧
      (∀ names node, (names, node) ∈ entries ↔ tree.Walked start names node) ∧
      (tree.walk start).filter Visit.isReached =
        entries.map fun entry => .reached (start.descend entry.1) :=
  ⟨tree.walkedEntries start, tree.walkedEntries_nodup start,
    fun _ _ => mem_walkedEntries_iff, tree.filter_isReached_walk start⟩

end FileTree
end ScriptAudit
