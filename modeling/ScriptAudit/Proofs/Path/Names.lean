import Mathlib.Data.List.Basic
import ScriptAudit.FileTree
import ScriptAudit.Proofs.Text.Pieces

/-!
# Names in paths

Cutting a path at its slashes undoes joining names to it. A path that a walk forms
by joining names to its start therefore determines these names, and one such path
lies within another exactly when its names extend those of the other.
-/

namespace ScriptAudit

open Text (Octets)

namespace Path

/-- The names through which a path leads. -/
def namesOf (path : Path) : List Octets :=
  path.segments.filter (· ≠ [])

theorem segments_append_slash (before after : Path) :
    segments (before ++ slash :: after) = segments before ++ segments after :=
  Text.splitAt_append_cons (by simp) before after

theorem segments_of_slash_notMem
    {name : Octets}
    (whole : slash ∉ name) :
    segments name = [name] := by
  apply Text.splitAt_of_forall_not
  intro octet present
  have different : octet ≠ slash := fun equal => whole (equal ▸ present)
  simpa using different

/-- What has no slash in it does not start at the root. -/
theorem isAbsolute_of_slash_notMem
    {segment : Octets}
    (whole : slash ∉ segment) :
    isAbsolute segment = false := by
  cases segment with
  | nil => rfl
  | cons octet octets =>
      have different : octet ≠ slash := fun equal => whole (equal ▸ List.mem_cons_self)
      simpa [isAbsolute] using different

namespace IsName

variable {name : Octets}

theorem ne_nil (isName : IsName name) : name ≠ [] := isName.1

theorem ne_dot (isName : IsName name) : name ≠ dot := isName.2.1

theorem ne_dotDot (isName : IsName name) : name ≠ dotDot := isName.2.2.1

theorem slash_notMem (isName : IsName name) : slash ∉ name := isName.2.2.2

theorem isAbsolute_eq_false (isName : IsName name) : isAbsolute name = false :=
  isAbsolute_of_slash_notMem isName.slash_notMem

theorem getLast?_ne_slash (isName : IsName name) : name.getLast? ≠ some slash :=
  fun ends => isName.slash_notMem (List.mem_of_getLast? ends)

theorem namesOf_eq (isName : IsName name) : namesOf name = [name] := by
  simp [namesOf, segments_of_slash_notMem isName.slash_notMem, isName.ne_nil]

end IsName

/-- A path up to where a name can be appended. -/
def stem (base : Path) : Path :=
  if base = [] || base.getLast? = some slash then base else base ++ [slash]

theorem join_eq_stem_append
    {name : Octets}
    (isName : IsName name)
    (base : Path) :
    base.join name = base.stem ++ name := by
  unfold join stem
  rw [isName.isAbsolute_eq_false, if_neg Bool.false_ne_true]
  split
  · rfl
  · simp

/-- A path is empty up to where a name can be appended, or it has a slash there. -/
theorem stem_eq_nil_or (base : Path) :
    base.stem = [] ∨ ∃ front, base.stem = front ++ [slash] := by
  unfold stem
  split
  · rename_i closed
    by_cases empty : base = []
    · exact .inl empty
    · have ends : base.getLast? = some slash := by simpa [empty] using closed
      exact .inr ⟨base.dropLast, (List.dropLast_append_getLast? slash ends).symm⟩
  · exact .inr ⟨base, rfl⟩

theorem namesOf_append_slash (front : Path) :
    namesOf (front ++ [slash]) = namesOf front := by
  rw [namesOf, segments_append_slash, List.filter_append]
  simp [namesOf, segments]

@[simp] theorem namesOf_stem (base : Path) : namesOf base.stem = namesOf base := by
  unfold stem
  split
  · rfl
  · exact namesOf_append_slash base

/-- Joining a name to a path adds it to the names of the path. -/
theorem namesOf_join
    {name : Octets}
    (isName : IsName name)
    (base : Path) :
    namesOf (base.join name) = namesOf base ++ [name] := by
  rw [join_eq_stem_append isName, ← namesOf_stem base]
  rcases stem_eq_nil_or base with empty | ⟨front, closed⟩
  · rw [empty]
    simpa [namesOf, segments] using isName.namesOf_eq
  · rw [closed, List.append_assoc, List.singleton_append, namesOf_append_slash, namesOf,
      segments_append_slash, List.filter_append,
      segments_of_slash_notMem isName.slash_notMem]
    simp [namesOf, isName.ne_nil]

theorem join_ne_nil
    {name : Octets}
    (isName : IsName name)
    (base : Path) :
    base.join name ≠ [] := by
  simp [join_eq_stem_append isName, isName.ne_nil]

theorem getLast?_join_ne_slash
    {name : Octets}
    (isName : IsName name)
    (base : Path) :
    (base.join name).getLast? ≠ some slash := by
  rw [join_eq_stem_append isName, List.getLast?_append]
  intro ends
  rcases Option.or_eq_some_iff.mp ends with inName | ⟨absent, _⟩
  · exact isName.getLast?_ne_slash inName
  · exact isName.ne_nil (List.getLast?_eq_none_iff.mp absent)

/-! ## Paths formed by joining names -/

/-- The path that leads from a base through names. -/
def descend (base : Path) (names : List Octets) : Path :=
  names.foldl join base

@[simp] theorem descend_nil (base : Path) : base.descend [] = base := rfl

@[simp] theorem descend_cons
    (base : Path)
    (name : Octets)
    (names : List Octets) :
    base.descend (name :: names) = (base.join name).descend names := rfl

theorem descend_append
    (base : Path)
    (first second : List Octets) :
    base.descend (first ++ second) = (base.descend first).descend second :=
  List.foldl_append

theorem namesOf_descend
    {names : List Octets}
    (areNames : ∀ name ∈ names, IsName name)
    (base : Path) :
    namesOf (base.descend names) = namesOf base ++ names := by
  induction names generalizing base with
  | nil => simp
  | cons name names inductionHypothesis =>
      have isName : IsName name := areNames name List.mem_cons_self
      have others : ∀ other ∈ names, IsName other := fun other later =>
        areNames other (List.mem_cons_of_mem name later)
      rw [descend_cons, inductionHypothesis others, namesOf_join isName,
        List.append_assoc, List.singleton_append]

/-- A path that is formed by joining names determines the names. -/
theorem descend_injective
    {first second : List Octets}
    {base : Path}
    (firstNames : ∀ name ∈ first, IsName name)
    (secondNames : ∀ name ∈ second, IsName name)
    (equal : base.descend first = base.descend second) :
    first = second := by
  have whole := congrArg namesOf equal
  rw [namesOf_descend firstNames, namesOf_descend secondNames] at whole
  exact List.append_cancel_left whole

@[simp] theorem joinSegments_cons_cons
    (first second : Octets)
    (rest : List Octets) :
    joinSegments (first :: second :: rest) =
      first ++ slash :: joinSegments (second :: rest) := rfl

theorem joinSegments_append
    {first second : List Octets}
    (firstNonempty : first ≠ [])
    (secondNonempty : second ≠ []) :
    joinSegments (first ++ second) =
      joinSegments first ++ slash :: joinSegments second := by
  obtain ⟨next, rest, rfl⟩ := List.exists_cons_of_ne_nil secondNonempty
  induction first with
  | nil => exact absurd rfl firstNonempty
  | cons name names inductionHypothesis =>
      cases names with
      | nil => rfl
      | cons other names =>
          have later := inductionHypothesis (List.cons_ne_nil other names)
          simpa using later

theorem stem_join
    {name : Octets}
    (isName : IsName name)
    (base : Path) :
    (base.join name).stem = base.stem ++ name ++ [slash] := by
  have keeps : ¬(decide (base.join name = []) ||
      decide ((base.join name).getLast? = some slash)) = true := by
    simp [join_ne_nil isName, getLast?_join_ne_slash isName]
  rw [stem, if_neg keeps, join_eq_stem_append isName]

/-- Joining names one after the other puts them together behind the base. -/
theorem descend_eq_stem_append
    {names : List Octets}
    (nonempty : names ≠ [])
    (areNames : ∀ name ∈ names, IsName name)
    (base : Path) :
    base.descend names = base.stem ++ joinSegments names := by
  induction names generalizing base with
  | nil => exact absurd rfl nonempty
  | cons name names inductionHypothesis =>
      have isName : IsName name := areNames name List.mem_cons_self
      cases names with
      | nil => exact join_eq_stem_append isName base
      | cons other names =>
          rw [descend_cons, inductionHypothesis (List.cons_ne_nil other names)
              (fun another present =>
                areNames another (List.mem_cons_of_mem name present)),
            stem_join isName, joinSegments_cons_cons]
          simp

theorem isAbsolute_join
    {base : Path}
    {name : Octets}
    (nonempty : base ≠ [])
    (isName : IsName name) :
    (base.join name).isAbsolute = base.isAbsolute := by
  obtain ⟨first, rest, rfl⟩ := List.exists_cons_of_ne_nil nonempty
  unfold join
  simp only [isName.isAbsolute_eq_false, Bool.false_eq_true, if_false]
  split <;> rfl

/-- Joining names does not change where a path starts. -/
theorem isAbsolute_descend
    {base : Path}
    {names : List Octets}
    (nonempty : base ≠ [])
    (areNames : ∀ name ∈ names, IsName name) :
    (base.descend names).isAbsolute = base.isAbsolute := by
  induction names generalizing base with
  | nil => rfl
  | cons name names inductionHypothesis =>
      have isName : IsName name := areNames name List.mem_cons_self
      have others : ∀ other ∈ names, IsName other := fun other later =>
        areNames other (List.mem_cons_of_mem name later)
      rw [descend_cons, inductionHypothesis (join_ne_nil isName base) others,
        isAbsolute_join nonempty isName]

/-- Whether a path is a base or continues it behind a slash. -/
def Within (base path : Path) : Prop :=
  path = base ∨ (base ++ [slash]) <+: path

instance (base path : Path) : Decidable (Within base path) :=
  inferInstanceAs (Decidable (_ ∨ _))

/-- Of two paths that start at one base, one lies within the other exactly when its
names extend those of the other. -/
theorem within_descend_iff
    {outer inner : List Octets}
    (nonempty : outer ≠ [])
    (outerNames : ∀ name ∈ outer, IsName name)
    (innerNames : ∀ name ∈ inner, IsName name)
    (base : Path) :
    Within (base.descend outer) (base.descend inner) ↔ outer <+: inner := by
  constructor
  · rintro (equal | ⟨rest, continued⟩)
    · obtain rfl := descend_injective innerNames outerNames equal
      exact List.prefix_rfl
    · have whole := congrArg namesOf continued
      rw [List.append_assoc, List.singleton_append, namesOf, segments_append_slash,
        List.filter_append, namesOf_descend innerNames] at whole
      change namesOf (base.descend outer) ++ namesOf rest = _ at whole
      rw [namesOf_descend outerNames, List.append_assoc] at whole
      exact ⟨namesOf rest, List.append_cancel_left whole⟩
  · rintro ⟨rest, rfl⟩
    rcases eq_or_ne rest [] with rfl | more
    · exact .inl (by rw [List.append_nil])
    · refine .inr ⟨joinSegments rest, ?_⟩
      rw [descend_eq_stem_append nonempty outerNames,
        descend_eq_stem_append
          (List.append_ne_nil_of_left_ne_nil nonempty rest) innerNames,
        joinSegments_append nonempty more]
      simp

end Path

namespace FileTree

theorem steps_eq (path : Path) :
    steps path =
      path.namesOf ++ if path.getLast? = some Path.slash then [[]] else [] := rfl

/-- A path that ends in a name asks for nothing behind it. -/
theorem steps_descend
    {names : List Octets}
    (nonempty : names ≠ [])
    (areNames : ∀ name ∈ names, Path.IsName name)
    (base : Path) :
    steps (base.descend names) = base.namesOf ++ names := by
  have ends : (base.descend names).getLast? ≠ some Path.slash := by
    obtain ⟨front, last, rfl⟩ := (List.eq_nil_or_concat names).resolve_left nonempty
    rw [List.concat_eq_append, Path.descend_append]
    exact Path.getLast?_join_ne_slash (areNames last (by simp)) _
  rw [steps_eq, if_neg ends, List.append_nil, Path.namesOf_descend areNames]

end FileTree
end ScriptAudit
