import ScriptAudit.Proofs.FileTree.Lookup

/-!
# What locks keep from being looked up

Without its locks a tree holds the same entries, and a path leads to what it leads to
with them. The converse fails in one way only: a look-up takes the steps that it takes
without locks until it comes to a locked directory with a name left to follow.
Permission is denied then, whatever stands behind the directory.
-/

namespace ScriptAudit

open Text (Octets)

/-- A node without its lock. -/
def Node.unlocked (node : Node) : Node :=
  { node with locked := false }

namespace FileTree

variable {tree : FileTree} {path : Path} {node image : Node}

/-! ## The tree without locks -/

theorem unlocked_mirrors :
    Mirrors tree tree.unlocked fun node image => image = node.unlocked :=
  modify_mirrors rfl fun _ => rfl

theorem mirrors_unlocked :
    Mirrors tree.unlocked tree fun image node => image = node.unlocked :=
  mirrors_modify rfl fun _ => rfl

/-- Locks make no difference to the tree without locks. -/
theorem unlocked_lock (tree : FileTree) (location : Location) :
    (tree.lock location).unlocked = tree.unlocked := by
  have sameNodes : (tree.lock location).unlocked.nodes = tree.unlocked.nodes := by
    change (tree.nodes.map _).map _ = tree.nodes.map _
    rw [List.map_map]
    apply List.map_congr_left
    intro node _
    simp only [Function.comp_apply]
    split <;> rfl
  cases tree
  simp only [lock, unlocked, modify, mk.injEq, and_true] at sameNodes ⊢
  exact sameNodes

/-! ## Look-ups that are denied -/

theorem locate_of_isDenied
    {lookup : Lookup}
    (denied : lookup.IsDenied) :
    tree.locate .followed lookup.links lookup.node lookup.names = .error .denied := by
  obtain ⟨links, node, names⟩ := lookup
  obtain ⟨isDirectory, locked, name, rest, rfl, nonempty⟩ := denied
  dsimp only at isDirectory locked
  rw [locate]
  simp only [isDirectory, nonempty, locked, Bool.not_true,
    Bool.false_eq_true, if_false, if_true]

/-- Permission is denied only at a locked directory. -/
theorem exists_isDenied_of_locate
    {links : Nat}
    {names : List Octets}
    (denied : tree.locate .followed links node names = .error .denied) :
    ∃ passed last, Run tree ⟨links, node, names⟩ passed last ∧ last.IsDenied := by
  obtain ⟨passed, last, run, ends⟩ := tree.exists_run_to_end links node names
  rw [denied] at ends
  cases ends with
  | denied isDenied => exact ⟨passed, last, run, isDenied⟩
  | refused otherReason => exact absurd rfl otherReason

/-- The look-up of a path comes to a locked directory with a name left to follow. -/
def StopsAtLock (tree : FileTree) (path : Path) : Prop :=
  ∃ origin passed last, tree.origin? path = some origin ∧
    Run tree ⟨linkLimit, origin, steps path⟩ passed last ∧ last.IsDenied

/-- Permission to look a path up is denied exactly when a lock stops the look-up. -/
theorem status_eq_denied_iff :
    tree.status path = .error .denied ↔ tree.StopsAtLock path := by
  unfold status nodeAt place
  constructor
  · intro denied
    split at denied
    · rename_i located
      obtain rfl := Except.error.inj denied
      split at located
      · cases located
      · unfold follow at located
        split at located
        · cases located
        · rename_i origin starts
          obtain ⟨passed, last, run, isDenied⟩ := exists_isDenied_of_locate located
          exact ⟨origin, passed, last, starts, run, isDenied⟩
    · cases denied
    · cases denied
  · rintro ⟨origin, passed, last, starts, run, isDenied⟩
    have nonempty : path ≠ [] := by
      rintro rfl
      obtain ⟨_, _, name, rest, names, _⟩ := isDenied
      cases run with
      | rest => cases names
      | move step _ => exact absurd rfl step.names_ne_nil
    have located := (locate_run run).trans (locate_of_isDenied isDenied)
    simp only [nonempty, if_false, follow, starts] at located ⊢
    rw [located]

/-! ## Look-ups with and without locks -/

/-- A step without locks is one with them, unless it is denied. -/
theorem Step.isDenied_or_transfer
    {links : Nat}
    {names : List Octets}
    {next : Lookup}
    (step : Step tree.unlocked ⟨links, node.unlocked, names⟩ next) :
    Lookup.IsDenied ⟨links, node, names⟩ ∨
      ∃ nextNode, next.node = nextNode.unlocked ∧
        Step tree ⟨links, node, names⟩ ⟨next.links, nextNode, next.names⟩ := by
  cases locked : node.locked with
  | false => exact .inr (step.transfer mirrors_unlocked rfl fun _ => locked)
  | true =>
      cases step with
      | idle directory => exact .inr ⟨node, rfl, .idle directory⟩
      | stay directory => exact .inl ⟨directory, locked, _, _, rfl, by decide⟩
      | climb directory => exact .inl ⟨directory, locked, _, _, rfl, by decide⟩
      | enter directory _ lookedUp =>
          exact .inl ⟨directory, locked, _, _, rfl, lookedUp.1⟩
      | follow directory _ lookedUp =>
          exact .inl ⟨directory, locked, _, _, rfl, lookedUp.1⟩

/-- A run without locks is one with them, unless it is denied on its way. -/
theorem Run.isDenied_or_transfer
    {first last : Lookup}
    {passed : List Location}
    (run : Run tree.unlocked first passed last)
    (images : first.node = node.unlocked) :
    (∃ early stop, Run tree ⟨first.links, node, first.names⟩ early stop ∧ stop.IsDenied) ∨
      ∃ lastNode, last.node = lastNode.unlocked ∧
        Run tree ⟨first.links, node, first.names⟩ passed ⟨last.links,
          lastNode, last.names⟩ := by
  induction run generalizing node with
  | rest lookup => exact .inr ⟨node, images, .rest _⟩
  | @move first next last passed step run inductionHypothesis =>
      obtain ⟨links, firstNode, names⟩ := first
      obtain rfl : firstNode = node.unlocked := images
      rcases step.isDenied_or_transfer with isDenied | ⟨nextNode, nextImages, lockedStep⟩
      · exact .inl ⟨[], _, .rest _, isDenied⟩
      · rcases inductionHypothesis nextImages with
          ⟨early, stop, lockedRun, isDenied⟩ | ⟨lastNode, lastImages, lockedRun⟩
        · exact .inl ⟨_, stop, .move lockedStep lockedRun, isDenied⟩
        · exact .inr ⟨lastNode, lastImages, .move lockedStep lockedRun⟩

/-- A path that leads somewhere without locks leads there with them, unless a lock stops
its look-up. -/
theorem status_of_unlocked
    (found : tree.unlocked.status path = .ok image)
    (unstopped : ¬ tree.StopsAtLock path) :
    ∃ node, tree.status path = .ok node ∧ image = node.unlocked := by
  obtain ⟨nonempty, originImage, passed, startsImage, left, run⟩ :=
    status_eq_ok_iff.mp found
  obtain ⟨origin, starts, images⟩ := mirrors_unlocked.exists_origin? rfl startsImage
  rcases run.isDenied_or_transfer images with
    ⟨early, stop, lockedRun, isDenied⟩ | ⟨node, related, lockedRun⟩
  · exact absurd ⟨origin, early, stop, starts, lockedRun, isDenied⟩ unstopped
  · exact ⟨node, status_eq_ok_iff.mpr ⟨nonempty, origin, passed, starts, left, lockedRun⟩,
      related⟩

/-- A directory can be looked up exactly when it is one without locks and no lock stops
the look-up. -/
theorem isDirectory_iff_unlocked :
    tree.isDirectory path = true ↔
      tree.unlocked.isDirectory path = true ∧ ¬ tree.StopsAtLock path := by
  rw [isDirectory_eq_true_iff, isDirectory_eq_true_iff]
  constructor
  · rintro ⟨node, found, isDirectory⟩
    obtain ⟨_, imageFound, rfl⟩ :=
      unlocked_mirrors.exists_status rfl (by rintro node _ rfl _; rfl) found
    refine ⟨⟨node.unlocked, imageFound, isDirectory⟩, ?_⟩
    rw [← status_eq_denied_iff, found]
    simp
  · rintro ⟨⟨image, imageFound, isDirectory⟩, unstopped⟩
    obtain ⟨node, found, rfl⟩ := status_of_unlocked imageFound unstopped
    exact ⟨node, found, isDirectory⟩

end FileTree
end ScriptAudit
