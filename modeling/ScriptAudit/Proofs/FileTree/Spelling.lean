import ScriptAudit.Proofs.FileTree.WalkedPaths
import ScriptAudit.Proofs.Path.Components

/-!
# Spellings of a path

The components of a path say where it starts and which names it leads through, apart
from dots. A dot leads back to where it stands, so two paths with the same components
that both lead somewhere lead to the same node and have the same number of links left to
follow. Whatever is appended to them leads on in the same way or is refused for the same
reason.
-/

namespace ScriptAudit

open Text (Octets)

namespace Path

/-! ## What components say -/

/-- The name that is looked up for a component. -/
def Component.name? : Component → Option Octets
  | .root | .current => none
  | .parent => some dotDot
  | .name octets => some octets

theorem bind_name?_component? (segment : Octets) :
    (component? segment).bind Component.name? =
      if segment = [] || segment = dot then none else some segment := by
  unfold component?
  split
  · rfl
  · split
    · simp_all [Component.name?]
    · rfl

theorem segments_slash_cons (after : Path) :
    segments (slash :: after) = [] :: segments after :=
  segments_append_slash [] after

/-- The first segment of an absolute path is empty. -/
theorem bind_name?_firstComponent?
    {path : Path}
    {first : Octets}
    {rest : List Octets}
    (cut : path.segments = first :: rest) :
    (firstComponent? path.isAbsolute first).bind Component.name? =
      if first = [] || first = dot then none else some first := by
  unfold firstComponent?
  split
  · rename_i absolute
    obtain ⟨after, rfl⟩ := List.head?_eq_some_iff.mp (beq_iff_eq.mp absolute)
    rw [segments_slash_cons] at cut
    rw [← (List.cons.inj cut).1]
    rfl
  · split
    · simp_all [Component.name?]
    · exact bind_name?_component? first

/-- The names of a path, apart from dots, are those of its components. -/
theorem filter_namesOf_eq (path : Path) :
    path.namesOf.filter (· ≠ dot) = path.components.filterMap Component.name? := by
  obtain ⟨first, rest, cut⟩ := List.exists_cons_of_ne_nil path.segments_ne_nil
  have behind : (markedBehind rest).filterMap
      (fun meaning => meaning.2.bind Component.name?) = rest.filterMap fun segment =>
        if segment = [] || segment = dot then none else some segment := by
    rw [markedBehind, List.filterMap_map]
    apply List.filterMap_congr
    intro segment _
    exact bind_name?_component? segment
  have ofSegments : path.components.filterMap Component.name? =
      (first :: rest).filterMap fun segment =>
        if segment = [] || segment = dot then none else some segment := by
    rw [components, List.filterMap_filterMap, meanings_eq, cut, marked,
      List.filterMap_cons, List.filterMap_cons, bind_name?_firstComponent? cut, behind]
  rw [ofSegments, namesOf, cut, List.filter_filter, ← List.filterMap_eq_filter]
  congr 1
  funext segment
  by_cases empty : segment = []
  · simp [empty]
  · by_cases isDot : segment = dot
    · simp [isDot]
    · simp [empty, isDot]

/-- Where a path starts is known from its components. -/
theorem root_mem_components_iff {path : Path} :
    .root ∈ path.components ↔ path.isAbsolute = true := by
  obtain ⟨first, rest, cut⟩ := List.exists_cons_of_ne_nil path.segments_ne_nil
  have noRoot : ∀ segment, component? segment ≠ some .root := by
    intro segment
    unfold component?
    split
    · simp
    · split <;> simp
  have firstNoRoot : firstComponent? false first ≠ some .root := by
    unfold firstComponent?
    split
    · contradiction
    · split
      · simp
      · exact noRoot first
  rw [components, meanings_eq, cut, marked, List.mem_filterMap]
  cases path.isAbsolute with
  | true => exact iff_of_true ⟨(first, some .root), by simp [firstComponent?], rfl⟩ rfl
  | false =>
      simp only [Bool.false_eq_true, iff_false]
      rintro ⟨meaning, member, isRoot⟩
      rcases List.mem_cons.mp member with rfl | later
      · exact firstNoRoot isRoot
      · obtain ⟨segment, _, rfl⟩ := List.mem_map.mp later
        exact noRoot segment isRoot

theorem isAbsolute_congr
    {first second : Path}
    (same : first.components = second.components) :
    first.isAbsolute = second.isAbsolute := by
  rw [Bool.eq_iff_iff, ← root_mem_components_iff, ← root_mem_components_iff, same]

end Path

namespace FileTree

variable {tree : FileTree} {first second : Path} {links left : Nat} {node found : Node}
  {names : List Octets} {passed : List Location}

/-! ## Dots on the way -/

/-- A dot leads to where it stands. -/
theorem Run.eq_of_dot
    (run : Run tree ⟨links, node, [Path.dot]⟩ passed ⟨left, found, []⟩) :
    left = links ∧ found = node := by
  cases run with
  | move step rest =>
      cases step with
      | stay =>
          cases rest with
          | rest => exact ⟨rfl, rfl⟩
          | move step _ => exact absurd rfl step.names_ne_nil
      | enter _ _ lookedUp => exact absurd rfl lookedUp.2.1
      | follow _ _ lookedUp => exact absurd rfl lookedUp.2.1

/-- A run along names leads along the same names without dots. -/
theorem Run.filter_dots
    (run : Run tree ⟨links, node, names⟩ passed ⟨left, found, []⟩) :
    ∃ fewer,
      Run tree ⟨links, node, names.filter (· ≠ Path.dot)⟩ fewer ⟨left, found, []⟩ := by
  induction names generalizing links node passed with
  | nil => exact ⟨passed, run⟩
  | cons name names inductionHypothesis =>
      have split : Run tree ((⟨links, node, [name]⟩ : Lookup).append names) passed
          ⟨left, found, []⟩ := run
      obtain ⟨middle, between, early, later, _, front, back⟩ := split.exists_of_append rfl
      obtain ⟨fewer, shorter⟩ := inductionHypothesis back
      by_cases isDot : name = Path.dot
      · subst isDot
        obtain ⟨rfl, rfl⟩ := front.eq_of_dot
        exact ⟨fewer, by simpa using shorter⟩
      · refine ⟨early ++ fewer, ?_⟩
        rw [List.filter_cons_of_pos (by simpa using isDot)]
        exact (front.append _).trans shorter

/-! ## Paths that mean the same -/

/-- Two paths that lead somewhere and have the same components. -/
structure Respells (tree : FileTree) (first second : Path) : Prop where
  components_eq : first.components = second.components
  first_exists : tree.pathExists first = true
  second_exists : tree.pathExists second = true

theorem ne_nil_of_pathExists
    {path : Path}
    (leads : tree.pathExists path = true) :
    path ≠ [] := by
  obtain ⟨node, found⟩ := pathExists_iff.mp leads
  exact (status_eq_ok_iff.mp found).1

/-- A path that leads somewhere leads there along its names without dots. -/
theorem exists_run_of_pathExists
    {path : Path}
    (leads : tree.pathExists path = true) :
    ∃ origin passed fewer left found, tree.origin? path = some origin ∧
      Run tree ⟨linkLimit, origin, path.namesOf⟩ passed ⟨left, found, []⟩ ∧
      Run tree ⟨linkLimit, origin, path.namesOf.filter (· ≠ Path.dot)⟩ fewer
        ⟨left, found, []⟩ := by
  obtain ⟨node, status⟩ := pathExists_iff.mp leads
  obtain ⟨_, origin, passed, starts, leadsTo⟩ := status_eq_ok_iff.mp status
  obtain ⟨early, _, left, run⟩ := leadsTo.namesOf
  obtain ⟨fewer, shorter⟩ := run.filter_dots
  exact ⟨origin, early, fewer, left, node, starts, run, shorter⟩

/-- What is appended to a path is looked up behind its names. -/
theorem steps_stem_append
    {base : Path}
    (nonempty : base ≠ [])
    (after : Path) :
    steps (base.stem ++ after) = base.namesOf ++ steps (Path.slash :: after) := by
  obtain ⟨front, closed⟩ := Path.exists_stem_eq nonempty
  have names : (base.stem ++ after).namesOf =
      base.namesOf ++ Path.namesOf (Path.slash :: after) := by
    rw [← Path.namesOf_stem base, closed, Path.namesOf_append_slash, List.append_assoc,
      List.singleton_append, Path.namesOf, Path.segments_append_slash, List.filter_append,
      Path.namesOf, Path.namesOf, Path.segments_slash_cons]
    rfl
  have sameEnd : (base.stem ++ after).getLast? = (Path.slash :: after).getLast? := by
    rw [closed, List.append_assoc, List.singleton_append,
      List.getLast?_append_of_ne_nil front (List.cons_ne_nil Path.slash after)]
  rw [steps_eq, steps_eq, names, sameEnd, List.append_assoc]

/-- What is appended to a path is looked up from where the path leads. -/
theorem place_stem_append
    {base : Path}
    {origin : Node}
    (nonempty : base ≠ [])
    (starts : tree.origin? base = some origin)
    (run : Run tree ⟨linkLimit, origin, base.namesOf⟩ passed ⟨left, found, []⟩)
    (after : Path) :
    tree.place .followed (base.stem ++ after) =
      tree.locate .followed left found (steps (Path.slash :: after)) := by
  obtain ⟨front, closed⟩ := Path.exists_stem_eq nonempty
  have something : base.stem ++ after ≠ [] := by simp [closed]
  have sameStart : tree.origin? (base.stem ++ after) = some origin := by
    rw [← starts, origin?, origin?, Path.isAbsolute_append (by simp [closed]), Path.stem]
    split
    · rfl
    · rw [Path.isAbsolute_append nonempty]
  rw [place, if_neg something, follow, sameStart, steps_stem_append nonempty]
  exact locate_run (run.append _)

namespace Respells

/-- Whatever is appended to two spellings of a path leads to the same node or is refused
for the same reason. -/
theorem status_eq
    (respells : tree.Respells first second)
    (after : Path) :
    tree.status (first.stem ++ after) = tree.status (second.stem ++ after) := by
  obtain ⟨origin, passed, fewer, left, found, starts, run, shorter⟩ :=
    exists_run_of_pathExists respells.first_exists
  obtain ⟨other, otherPassed, otherFewer, otherLeft, otherFound, otherStarts, otherRun,
    otherShorter⟩ := exists_run_of_pathExists respells.second_exists
  have sameOrigin : origin = other := by
    rw [origin?, Path.isAbsolute_congr respells.components_eq] at starts
    exact Option.some.inj (starts.symm.trans otherStarts)
  subst sameOrigin
  rw [Path.filter_namesOf_eq, ← respells.components_eq, ← Path.filter_namesOf_eq]
    at otherShorter
  have sameEnd := (shorter.eq_of_done rfl otherShorter rfl).2
  obtain ⟨rfl, rfl⟩ : otherLeft = left ∧ otherFound = found :=
    ⟨congrArg Lookup.links sameEnd, congrArg Lookup.node sameEnd⟩
  rw [status, status, nodeAt, nodeAt,
    place_stem_append (ne_nil_of_pathExists respells.first_exists) starts run,
    place_stem_append (ne_nil_of_pathExists respells.second_exists) otherStarts otherRun]

end Respells
end FileTree
end ScriptAudit
