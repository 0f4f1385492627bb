import ScriptAudit.Proofs.FileTree.WalkedPaths

/-!
# Trees that differ in the contents of files

The outline of a tree says which entries stand where, which of them are locked and what
the targets of links are; it says nothing about what files contain. Look-ups and walks
depend on the outline of a tree only. In two trees of the same outline a path leads to
corresponding nodes, and a walk makes the same visits in the same order.
-/

namespace ScriptAudit

open Text (Octets)

namespace Node

/-- A node without the content of a file. -/
def outline (node : Node) : Node :=
  { node with entry := node.entry.outline }

@[simp] theorem outline_location (node : Node) :
    node.outline.location = node.location := rfl

@[simp] theorem outline_locked (node : Node) : node.outline.locked = node.locked := rfl

@[simp] theorem outline_entry (node : Node) :
    node.outline.entry = node.entry.outline := rfl

@[simp] theorem outline_isDirectory (node : Node) :
    node.outline.isDirectory = node.isDirectory := by
  unfold isDirectory
  cases entry : node.entry <;> simp [entry, Entry.outline]

variable {node image : Node}

theorem location_eq_of_outline_eq (same : image.outline = node.outline) :
    image.location = node.location := by
  rw [← outline_location image, same, outline_location]

theorem locked_eq_of_outline_eq (same : image.outline = node.outline) :
    image.locked = node.locked := by
  rw [← outline_locked image, same, outline_locked]

theorem isDirectory_eq_of_outline_eq (same : image.outline = node.outline) :
    image.isDirectory = node.isDirectory := by
  rw [← outline_isDirectory image, same, outline_isDirectory]

end Node

namespace FileTree

/-- Two trees hold the same entries, with the same locks and the same targets of links,
and work in the same directory. Only what files contain may differ. -/
structure SameOutline (tree other : FileTree) : Prop where
  get?_outline : ∀ location,
    (other.get? location).map Node.outline = (tree.get? location).map Node.outline
  working_eq : other.working = tree.working

namespace SameOutline

variable {tree other : FileTree} {start path : Path} {node base image : Node}
  {location : Location} {names : List Octets}

theorem symm (same : tree.SameOutline other) : other.SameOutline tree where
  get?_outline := fun location => (same.get?_outline location).symm
  working_eq := same.working_eq.symm

/-- What stands at a location has a counterpart there. -/
theorem exists_get?
    (same : tree.SameOutline other)
    (found : tree.get? location = some node) :
    ∃ image, other.get? location = some image ∧ image.outline = node.outline := by
  have outlined := same.get?_outline location
  rw [found, Option.map_some] at outlined
  exact Option.map_eq_some_iff.mp outlined

theorem mirrors (same : tree.SameOutline other) :
    Mirrors tree other fun node image => image.outline = node.outline where
  found := same.exists_get?
  location_eq := Node.location_eq_of_outline_eq
  outline_eq := fun images => congrArg Node.entry images

/-! ## Look-ups -/

/-- A path leads to the counterpart of what it leads to in the other tree. -/
theorem exists_status
    (same : tree.SameOutline other)
    (found : tree.status path = .ok node) :
    ∃ image, other.status path = .ok image ∧ image.outline = node.outline := by
  apply same.mirrors.exists_status same.working_eq _ found
  intro node image images unlocked
  rw [Node.locked_eq_of_outline_eq images, unlocked]

/-- A path leads to counterparts in both trees, or nowhere in either. -/
theorem status_cases (same : tree.SameOutline other) (path : Path) :
    (∃ node image, tree.status path = .ok node ∧ other.status path = .ok image ∧
        image.outline = node.outline) ∨
      ∃ error otherError, tree.status path = .error error ∧
        other.status path = .error otherError := by
  cases found : tree.status path with
  | ok node =>
      obtain ⟨image, imageFound, images⟩ := same.exists_status found
      exact .inl ⟨node, image, rfl, imageFound, images⟩
  | error error =>
      cases otherFound : other.status path with
      | error otherError => exact .inr ⟨error, otherError, rfl, rfl⟩
      | ok image =>
          obtain ⟨node, impossible, _⟩ := same.symm.exists_status otherFound
          rw [found] at impossible
          cases impossible

theorem pathExists_eq (same : tree.SameOutline other) (path : Path) :
    other.pathExists path = tree.pathExists path := by
  rcases same.status_cases path with ⟨node, image, found, imageFound, _⟩ |
    ⟨error, otherError, failed, otherFailed⟩
  · rw [pathExists, pathExists, found, imageFound]
    rfl
  · rw [pathExists, pathExists, failed, otherFailed]
    rfl

theorem isDirectory_eq (same : tree.SameOutline other) (path : Path) :
    other.isDirectory path = tree.isDirectory path := by
  rcases same.status_cases path with ⟨node, image, found, imageFound, images⟩ |
    ⟨error, otherError, failed, otherFailed⟩
  · rw [isDirectory_of_status found, isDirectory_of_status imageFound,
      Node.isDirectory_eq_of_outline_eq images]
  · rw [isDirectory, isDirectory, failed, otherFailed]

theorem isFile_eq (same : tree.SameOutline other) (path : Path) :
    other.isFile path = tree.isFile path := by
  rcases same.status_cases path with ⟨node, image, found, imageFound, images⟩ |
    ⟨error, otherError, failed, otherFailed⟩
  · have sameEntry : image.entry.outline = node.entry.outline :=
      congrArg Node.entry images
    obtain ⟨_, entry, _⟩ := node
    obtain ⟨_, imageEntry, _⟩ := image
    rw [isFile, isFile, found, imageFound]
    cases entry <;> cases imageEntry <;> simp_all [Entry.outline]
  · rw [isFile, isFile, failed, otherFailed]

/-! ## Walks -/

/-- A walk comes to the counterpart of what it comes to in the other tree. -/
theorem exists_walked
    (same : tree.SameOutline other)
    (walked : tree.Walked start names node) :
    ∃ image, other.Walked start names image ∧ image.outline = node.outline := by
  induction walked with
  | start found =>
      obtain ⟨image, imageFound, images⟩ := same.exists_status found
      exact ⟨image, .start imageFound, images⟩
  | child walked isDirectory unlocked found inductionHypothesis =>
      obtain ⟨directory, imageWalked, images⟩ := inductionHypothesis
      obtain ⟨image, imageFound, childImages⟩ := same.exists_get? found
      rw [← Node.location_eq_of_outline_eq images] at imageFound
      rw [← Node.isDirectory_eq_of_outline_eq images] at isDirectory
      rw [← Node.locked_eq_of_outline_eq images] at unlocked
      exact ⟨image, .child imageWalked isDirectory unlocked imageFound, childImages⟩

theorem outline_mem_walkedNodes
    (same : tree.SameOutline other)
    (begins : tree.status start = .ok base)
    (imageBegins : other.status start = .ok image)
    (member : node ∈ (tree.walkedNodes base).map Node.outline) :
    node ∈ (other.walkedNodes image).map Node.outline := by
  obtain ⟨before, isWalked, rfl⟩ := List.mem_map.mp member
  obtain ⟨names, walked⟩ := (mem_walkedNodes_iff begins).mp isWalked
  obtain ⟨after, imageWalked, images⟩ := same.exists_walked walked
  rw [← images]
  exact List.mem_map_of_mem ((mem_walkedNodes_iff imageBegins).mpr ⟨names, imageWalked⟩)

theorem walkedNodes_outline_pairwise (tree : FileTree) (base : Node) :
    ((tree.walkedNodes base).map Node.outline).Pairwise Precedes :=
  List.pairwise_map.mpr (tree.walkedNodes_pairwise base)

/-- The nodes that a walk comes to have the same outlines, in the same order. -/
theorem walkedNodes_outline
    (same : tree.SameOutline other)
    (begins : tree.status start = .ok base)
    (imageBegins : other.status start = .ok image) :
    (other.walkedNodes image).map Node.outline =
      (tree.walkedNodes base).map Node.outline := by
  apply (walkedNodes_outline_pairwise other image).eq_of_mem_iff
    (walkedNodes_outline_pairwise tree base)
  intro node
  exact ⟨same.symm.outline_mem_walkedNodes imageBegins begins,
    same.outline_mem_walkedNodes begins imageBegins⟩

theorem visitsOf_outline (start : Path) (depth : Nat) (node : Node) :
    visitsOf start depth node.outline = visitsOf start depth node := by
  simp [visitsOf, Node.visits, walkedPath]

/-- A walk makes the same visits in the same order. -/
theorem walk_eq
    (same : tree.SameOutline other)
    (begins : tree.status start = .ok base) :
    other.walk start = tree.walk start := by
  obtain ⟨image, imageBegins, images⟩ := same.exists_status begins
  have ofOutlines : ∀ nodes : List Node,
      nodes.flatMap (visitsOf start base.location.length) =
        (nodes.map Node.outline).flatMap (visitsOf start base.location.length) := by
    intro nodes
    simp only [List.flatMap_map, visitsOf_outline]
  rw [walk_of_status_ok begins, walk_of_status_ok imageBegins,
    Node.location_eq_of_outline_eq images, ofOutlines (other.walkedNodes image),
    same.walkedNodes_outline begins imageBegins, ← ofOutlines (tree.walkedNodes base)]

end SameOutline
end FileTree
end ScriptAudit
