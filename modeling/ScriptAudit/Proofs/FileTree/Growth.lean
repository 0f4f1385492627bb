import Mathlib.Data.List.Flatten
import ScriptAudit.Proofs.FileTree.WalkedPaths

/-!
# Larger trees

A tree is part of another one that holds all of its nodes and works in the same
directory. A look-up that leads somewhere only sees nodes that are there, and so it
leads there in the larger tree as well. A walk comes to everything that it came to
before and to nothing in between that would change the order, since both walks go by
locations. Any entry can be added at a vacant location that only directories stand
around, those that are missing being created.
-/

namespace ScriptAudit

open Text (Octets)

namespace FileTree

/-- Another tree holds all nodes of a tree and works in the same directory. -/
structure IsPartOf (tree larger : FileTree) : Prop where
  nodes_subset : tree.nodes ⊆ larger.nodes
  working_eq : larger.working = tree.working

variable {tree larger : FileTree} {start path : Path} {node base : Node}
  {location : Location}

/-! ## Look-ups and walks -/

namespace IsPartOf

/-- What stands at a location still stands there. -/
theorem get?_eq
    (isPart : tree.IsPartOf larger)
    (found : tree.get? location = some node) :
    larger.get? location = some node := by
  rw [get?_eq_some_iff] at found ⊢
  exact found.imp_right (And.imp_left fun present => isPart.nodes_subset present)

theorem mirrors (isPart : tree.IsPartOf larger) : Mirrors tree larger Eq where
  found := fun found => ⟨_, isPart.get?_eq found, rfl⟩
  location_eq := by
    rintro node _ rfl
    rfl
  outline_eq := by
    rintro node _ rfl
    rfl

theorem origin?_eq
    (isPart : tree.IsPartOf larger)
    (starts : tree.origin? path = some node) :
    larger.origin? path = some node := by
  obtain ⟨_, largerStarts, rfl⟩ := isPart.mirrors.exists_origin? isPart.working_eq starts
  exact largerStarts

/-- A look-up leads where it led before. -/
theorem leads
    {links : Nat}
    {origin : Node}
    {names : List Octets}
    {passed : List Location}
    (isPart : tree.IsPartOf larger)
    (leads : tree.Leads links origin names passed node) :
    larger.Leads links origin names passed node := by
  obtain ⟨left, run⟩ := leads
  obtain ⟨_, rfl, largerRun⟩ := run.transfer isPart.mirrors rfl
    (by rintro other _ rfl _ unlocked; exact unlocked)
  exact ⟨left, largerRun⟩

/-- A path leads to what it led to before. -/
theorem status_eq
    (isPart : tree.IsPartOf larger)
    (found : tree.status path = .ok node) :
    larger.status path = .ok node := by
  obtain ⟨_, largerFound, rfl⟩ := isPart.mirrors.exists_status isPart.working_eq
    (by rintro other _ rfl unlocked; exact unlocked) found
  exact largerFound

theorem walked
    {names : List Octets}
    (isPart : tree.IsPartOf larger)
    (walked : tree.Walked start names node) :
    larger.Walked start names node := by
  induction walked with
  | start found => exact .start (isPart.status_eq found)
  | child walked isDirectory unlocked found inductionHypothesis =>
      exact .child inductionHypothesis isDirectory unlocked (isPart.get?_eq found)

/-- The nodes that a walk came to before are among those that it comes to, in the
same order. -/
theorem walkedNodes_sublist
    (isPart : tree.IsPartOf larger)
    (begins : tree.status start = .ok base) :
    (tree.walkedNodes base).Sublist (larger.walkedNodes base) := by
  have isSubset : tree.walkedNodes base ⊆ larger.walkedNodes base := by
    intro node member
    obtain ⟨names, walked⟩ := (mem_walkedNodes_iff begins).mp member
    exact (mem_walkedNodes_iff (isPart.status_eq begins)).mpr
      ⟨names, isPart.walked walked⟩
  exact List.sublist_of_subperm_of_pairwise
    (List.subperm_of_subset (tree.walkedNodes_nodup base) isSubset)
    (tree.walkedNodes_pairwise base) (larger.walkedNodes_pairwise base)

/-- A walk makes the visits that it made before, in the same order. -/
theorem walk_sublist
    (isPart : tree.IsPartOf larger)
    (begins : tree.status start = .ok base) :
    (tree.walk start).Sublist (larger.walk start) := by
  rw [walk_of_status_ok begins, walk_of_status_ok (isPart.status_eq begins)]
  exact (isPart.walkedNodes_sublist begins).flatMap _

theorem refl (tree : FileTree) : tree.IsPartOf tree :=
  ⟨List.Subset.refl tree.nodes, rfl⟩

theorem trans
    {largest : FileTree}
    (isPart : tree.IsPartOf larger)
    (largerIsPart : larger.IsPartOf largest) :
    tree.IsPartOf largest :=
  ⟨List.Subset.trans isPart.nodes_subset largerIsPart.nodes_subset,
    largerIsPart.working_eq.trans isPart.working_eq⟩

end IsPartOf

/-! ## Adding an entry -/

/-- Nothing stands at a location, and whatever stands around it is a directory. -/
structure IsVacant (tree : FileTree) (location : Location) : Prop where
  isName : ∀ name ∈ location, Path.IsName name
  get?_eq_none : tree.get? location = none
  around : ∀ outer, outer <+: location → ∀ node, tree.get? outer = some node →
    node.isDirectory

/-- A tree that holds a directory at a location has room for a name in it. -/
theorem hasRoom_of_holds
    {name : Octets}
    (holds : HoldsDirectory tree.nodes location)
    (isName : Path.IsName name) :
    HasRoom tree.nodes (location ++ [name]) := by
  refine ⟨by simpa using isName, ?_⟩
  rwa [List.dropLast_concat]

/-- A node can be added wherever there is room for it and nothing stands. -/
theorem exists_larger_of_hasRoom
    (room : HasRoom tree.nodes location)
    (vacant : tree.get? location = none)
    (entry : Entry)
    (locked : Bool) :
    ∃ larger, tree.IsPartOf larger ∧
      ∀ node, node ∈ larger.nodes ↔
        node ∈ tree.nodes ∨ node = ⟨location, entry, locked⟩ := by
  have notTaken : location ∉ tree.nodes.map Node.location := by
    intro taken
    obtain ⟨node, present, rfl⟩ := List.mem_map.mp taken
    rw [get?_location present] at vacant
    cases vacant
  have stays : ∀ node ∈ tree.nodes, node.location ≠ location := fun node present here =>
    notTaken (here ▸ List.mem_map_of_mem present)
  let added := tree.add location entry notTaken room
  have nodes : added.nodes = tree.nodes ++ [⟨location, entry, false⟩] := rfl
  cases locked with
  | false =>
      refine ⟨added, ⟨?_, rfl⟩, fun node => ?_⟩
      · rw [nodes]
        exact List.subset_append_left _ _
      · rw [nodes, List.mem_append, List.mem_singleton]
  | true =>
      have lockedNodes : (added.lock location).nodes =
          tree.nodes ++ [⟨location, entry, true⟩] := by
        change added.nodes.map _ = _
        rw [nodes, List.map_append]
        refine congrArg₂ (· ++ ·) ?_ (by simp)
        exact (List.map_congr_left fun node present => if_neg (stays node present)).trans
          (List.map_id _)
      refine ⟨added.lock location, ⟨?_, rfl⟩, fun node => ?_⟩
      · rw [lockedNodes]
        exact List.subset_append_left _ _
      · rw [lockedNodes, List.mem_append, List.mem_singleton]

/-- The directories around a location can be created where they are missing. -/
theorem exists_larger_holds
    (areNames : ∀ name ∈ location, Path.IsName name)
    (around : ∀ outer, outer <+: location → ∀ node, tree.get? outer = some node →
      node.isDirectory) :
    ∃ larger, tree.IsPartOf larger ∧ HoldsDirectory larger.nodes location ∧
      ∀ node ∈ larger.nodes,
        node ∈ tree.nodes ∨ node.location <+: location ∧ node.isDirectory := by
  induction location using List.reverseRecOn with
  | nil => exact ⟨tree, .refl tree, .inl rfl, fun node present => .inl present⟩
  | append_singleton location name inductionHypothesis =>
      have isFront : location <+: location ++ [name] := List.prefix_append location [name]
      obtain ⟨larger, isPart, holds, known⟩ := inductionHypothesis
        (fun other member => areNames other (List.mem_append_left [name] member))
        (fun outer isOuter => around outer (isOuter.trans isFront))
      cases found : larger.get? (location ++ [name]) with
      | some node =>
          have present : node ∈ larger.nodes := mem_of_get? found (by simp)
          have located := location_of_get? found
          have isDirectory : node.isDirectory := by
            rcases known node present with old | ⟨isOuter, isDirectory⟩
            · exact around _ List.prefix_rfl node (located ▸ get?_location old)
            · exact isDirectory
          refine ⟨larger, isPart, .inr ⟨node, present, located, isDirectory⟩, ?_⟩
          intro other otherPresent
          exact (known other otherPresent).imp_right (And.imp_left fun isOuter =>
            isOuter.trans isFront)
      | none =>
          have isName : Path.IsName name := areNames name (by simp)
          obtain ⟨largest, largerIsPart, nodes⟩ := exists_larger_of_hasRoom
            (hasRoom_of_holds holds isName) found .directory false
          refine ⟨largest, isPart.trans largerIsPart,
            .inr ⟨_, (nodes _).mpr (.inr rfl), rfl, rfl⟩, ?_⟩
          intro other otherPresent
          rcases (nodes other).mp otherPresent with old | rfl
          · exact (known other old).imp_right (And.imp_left fun isOuter =>
              isOuter.trans isFront)
          · exact .inr ⟨List.prefix_rfl, rfl⟩

/-- Any entry can be added at a vacant location. Apart from the entry, only missing
directories around it are added. -/
theorem IsVacant.exists_larger
    (vacant : tree.IsVacant location)
    (entry : Entry)
    (locked : Bool) :
    ∃ larger, tree.IsPartOf larger ∧
      larger.get? location = some ⟨location, entry, locked⟩ ∧
      ∀ node ∈ larger.nodes, node ∈ tree.nodes ∨ node = ⟨location, entry, locked⟩ ∨
        Encloses node.location location ∧ node.isDirectory := by
  have proper : location ≠ [] := by
    rintro rfl
    cases vacant.get?_eq_none
  obtain ⟨outer, name, rfl⟩ := (List.eq_nil_or_concat location).resolve_left proper
  rw [List.concat_eq_append] at *
  have isFront : outer <+: outer ++ [name] := List.prefix_append outer [name]
  obtain ⟨around, isPart, holds, known⟩ := exists_larger_holds
    (fun other member => vacant.isName other (List.mem_append_left [name] member))
    (fun front isOuter => vacant.around front (isOuter.trans isFront))
  have stillVacant : around.get? (outer ++ [name]) = none := by
    refine Option.eq_none_iff_forall_ne_some.mpr fun node found => ?_
    have located := location_of_get? found
    rcases known node (mem_of_get? found (by simp)) with old | ⟨isOuter, _⟩
    · have before := vacant.get?_eq_none
      rw [← located, get?_location old] at before
      cases before
    · have shorter := isOuter.length_le
      rw [located, List.length_append, List.length_singleton] at shorter
      omega
  obtain ⟨larger, largerIsPart, nodes⟩ := exists_larger_of_hasRoom
    (hasRoom_of_holds holds (vacant.isName name (by simp))) stillVacant entry locked
  refine ⟨larger, isPart.trans largerIsPart,
    get?_eq_some_iff.mpr (.inr ⟨(nodes _).mpr (.inr rfl), rfl⟩), fun node present => ?_⟩
  rcases (nodes node).mp present with old | rfl
  · exact (known node old).imp_right fun ⟨isOuter, isDirectory⟩ =>
      .inr ⟨encloses_concat_iff.mpr isOuter, isDirectory⟩
  · exact .inr (.inl rfl)

end FileTree
end ScriptAudit
