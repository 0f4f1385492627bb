import Mathlib.Data.List.Induction
import Mathlib.Data.List.Nodup
import ScriptAudit.FileTree

/-!
# The nodes of a file tree

What stands at a location is unique, it has a name, and it stands in a directory.
Everything around a node is therefore a directory of the tree as well.
-/

namespace ScriptAudit

open Text (Octets)

namespace FileTree

variable {tree : FileTree} {node : Node} {location : Location}

@[simp] theorem get?_nil (tree : FileTree) : tree.get? [] = some top := rfl

theorem location_ne_nil (present : node ∈ tree.nodes) : node.location ≠ [] := by
  intro empty
  have named := (tree.rooted node present).1
  simp [empty] at named

/-- The nodes of a tree are told apart by their locations. -/
theorem eq_of_location_eq
    {other : Node}
    (present : node ∈ tree.nodes)
    (alsoPresent : other ∈ tree.nodes)
    (same : node.location = other.location) :
    node = other :=
  List.inj_on_of_nodup_map tree.distinct present alsoPresent same

theorem get?_eq_some_iff :
    tree.get? location = some node ↔
      location = [] ∧ node = top ∨ node ∈ tree.nodes ∧ node.location = location := by
  unfold get?
  split
  · rename_i empty
    subst empty
    constructor
    · intro found
      exact .inl ⟨rfl, (Option.some.inj found).symm⟩
    · rintro (⟨_, rfl⟩ | ⟨present, empty⟩)
      · rfl
      · exact absurd empty (location_ne_nil present)
  · rename_i nonempty
    constructor
    · intro found
      exact .inr ⟨List.mem_of_find?_eq_some found, by simpa using List.find?_some found⟩
    · rintro (⟨empty, _⟩ | ⟨present, located⟩)
      · exact absurd empty nonempty
      · obtain ⟨other, found⟩ : ∃ other, tree.nodes.find?
            (fun candidate => candidate.location = location) = some other :=
          Option.isSome_iff_exists.mp
            (List.find?_isSome.mpr ⟨node, present, by simpa using located⟩)
        have sameLocation : other.location = node.location := by
          simpa [located] using List.find?_some found
        rw [found, eq_of_location_eq
          (List.mem_of_find?_eq_some found) present sameLocation]

theorem get?_location (present : node ∈ tree.nodes) :
    tree.get? node.location = some node :=
  get?_eq_some_iff.mpr (.inr ⟨present, rfl⟩)

theorem location_of_get? (found : tree.get? location = some node) :
    node.location = location := by
  rcases get?_eq_some_iff.mp found with ⟨rfl, rfl⟩ | ⟨_, located⟩
  · rfl
  · exact located

theorem mem_of_get?
    (found : tree.get? location = some node)
    (nonempty : location ≠ []) :
    node ∈ tree.nodes := by
  rcases get?_eq_some_iff.mp found with ⟨empty, _⟩ | ⟨present, _⟩
  · exact absurd empty nonempty
  · exact present

/-- Nodes that are changed where they stand are found there. The top directory is none
of them. -/
theorem get?_modify
    {change : Node → Node}
    {stays : ∀ node, (change node).location = node.location}
    {remains : ∀ node, node.isDirectory → (change node).isDirectory}
    (fixesTop : change top = top)
    (tree : FileTree)
    (location : Location) :
    (tree.modify change stays remains).get? location =
      (tree.get? location).map change := by
  unfold get?
  split
  · exact congrArg some fixesTop.symm
  · rw [modify, List.find?_map]
    congr 2
    funext candidate
    simp [stays]

theorem isDirectory_iff : node.isDirectory = true ↔ node.entry = .directory := by
  simp [Node.isDirectory]

/-- Where nodes hold a directory, the tree has one. -/
theorem exists_directory_of_holds (holds : HoldsDirectory tree.nodes location) :
    ∃ directory, tree.get? location = some directory ∧ directory.isDirectory := by
  rcases holds with rfl | ⟨directory, present, rfl, isDirectory⟩
  · exact ⟨top, rfl, rfl⟩
  · exact ⟨directory, get?_location present, isDirectory⟩

/-- What stands somewhere but at the top has a name and a directory around it. -/
theorem exists_parent
    {name : Octets}
    (found : tree.get? (location ++ [name]) = some node) :
    Path.IsName name ∧
      ∃ parent, tree.get? location = some parent ∧ parent.isDirectory := by
  have present : node ∈ tree.nodes := mem_of_get? found (by simp)
  obtain ⟨named, holds⟩ := tree.rooted node present
  rw [location_of_get? found] at named holds
  refine ⟨by simpa using named, ?_⟩
  rw [List.dropLast_concat] at holds
  exact exists_directory_of_holds holds

/-- Everything that stands around a node is a directory. -/
theorem exists_ancestor
    {names : List Octets}
    (found : tree.get? (location ++ names) = some node)
    (nonempty : names ≠ []) :
    ∃ ancestor, tree.get? location = some ancestor ∧ ancestor.isDirectory := by
  induction names using List.reverseRecOn generalizing node with
  | nil => exact absurd rfl nonempty
  | append_singleton names name inductionHypothesis =>
      rw [← List.append_assoc] at found
      obtain ⟨_, parent, parentFound, isDirectory⟩ := exists_parent found
      rcases eq_or_ne names [] with rfl | more
      · rw [List.append_nil] at parentFound
        exact ⟨parent, parentFound, isDirectory⟩
      · exact inductionHypothesis parentFound more

/-- A location at which something stands consists of names. -/
theorem isName_of_mem
    {name : Octets}
    (found : tree.get? location = some node)
    (passed : name ∈ location) :
    Path.IsName name := by
  induction location using List.reverseRecOn generalizing node with
  | nil => simp at passed
  | append_singleton location last inductionHypothesis =>
      obtain ⟨isName, parent, parentFound, _⟩ := exists_parent found
      rcases List.mem_append.mp passed with earlier | here
      · exact inductionHypothesis parentFound earlier
      · rwa [List.mem_singleton.mp here]

end FileTree
end ScriptAudit
