import Mathlib.Data.List.Induction
import Mathlib.Data.List.TakeWhile
import ScriptAudit.Proofs.Path.Relative

/-!
# The name at the end of a path

A path ends in a name if nothing with a meaning follows it: slashes and single dots
behind it change nothing. The extension of the name is what follows its last dot,
provided that the name does not start with that dot.
-/

namespace ScriptAudit

open Text (Octets)

namespace Path

/-- What may stand behind a path without changing where it leads: slashes, and single
dots behind them. -/
inductive IsIdleTail : Path → Prop
  | nil : IsIdleTail []
  | slash {tail : Path} (idle : IsIdleTail tail) : IsIdleTail (slash :: tail)
  | slashDot {tail : Path} (idle : IsIdleTail tail) :
    IsIdleTail (Path.slash :: dot ++ tail)

theorem IsIdleTail.append
    {first second : Path}
    (idle : IsIdleTail first)
    (alsoIdle : IsIdleTail second) :
    IsIdleTail (first ++ second) := by
  induction idle with
  | nil => exact alsoIdle
  | slash _ inductionHypothesis => exact .slash inductionHypothesis
  | slashDot _ inductionHypothesis => exact .slashDot inductionHypothesis

/-- What stands behind a slash means nothing if it is empty or a dot. -/
theorem isIdleTail_of_isIdle
    {segment : Octets}
    (idle : isIdle segment = true) :
    IsIdleTail (slash :: segment) := by
  rcases component?_eq_none_iff.mp (Option.isNone_iff_eq_none.mp idle) with rfl | rfl
  · exact .slash .nil
  · exact .slashDot .nil

/-- An idle tail adds no components. -/
theorem components_append_idleTail
    {base tail : Path}
    (nonempty : base ≠ [])
    (idle : IsIdleTail tail) :
    (base ++ tail).components = base.components := by
  induction idle generalizing base with
  | nil => rw [List.append_nil]
  | @slash tail _ inductionHypothesis =>
      rw [List.append_cons, inductionHypothesis (by simp),
        components_concat_slash nonempty]
  | @slashDot tail _ inductionHypothesis =>
      have dotted : (base ++ slash :: dot).components = base.components := by
        have noMeaning : (segments dot).filterMap component? = [] := by decide
        rw [components_append_slash, components_concat_slash nonempty,
          noMeaning, List.append_nil]
      rw [← List.append_assoc, inductionHypothesis (by simp), dotted]

/-- A path is cut behind its last slash. -/
theorem exists_lastSegment (path : Path) :
    ∃ front segment, path = front ++ segment ∧ slash ∉ segment ∧
      (front = [] ∨ ∃ base, front = base ++ [slash]) := by
  induction path using List.reverseRecOn with
  | nil => exact ⟨[], [], rfl, List.not_mem_nil, .inl rfl⟩
  | append_singleton path last inductionHypothesis =>
      by_cases isSlash : last = slash
      · exact ⟨path ++ [last], [], (List.append_nil _).symm, List.not_mem_nil,
          .inr ⟨path, by rw [isSlash]⟩⟩
      · obtain ⟨front, segment, rfl, whole, closed⟩ := inductionHypothesis
        refine ⟨front, segment ++ [last], List.append_assoc _ _ _, ?_, closed⟩
        rw [List.mem_append, List.mem_singleton, not_or]
        exact ⟨whole, Ne.symm isSlash⟩

theorem fileName?_eq_some_iff_getLast? {path : Path} {name : Octets} :
    path.fileName? = some name ↔ path.components.getLast? = some (.name name) := by
  unfold fileName?
  split
  · rename_i last
    simp [last]
  · rename_i noName
    exact iff_of_false (by simp) (noName name)

/-- A segment means nothing, the parent directory, or the name that it is. -/
theorem component?_cases
    {segment : Octets}
    (whole : slash ∉ segment) :
    isIdle segment = true ∨ component? segment = some .parent ∨
      IsName segment ∧ component? segment = some (.name segment) := by
  by_cases empty : segment = []
  · exact .inl (by rw [empty]; rfl)
  by_cases isDot : segment = dot
  · exact .inl (by rw [isDot]; rfl)
  by_cases isParent : segment = dotDot
  · exact .inr (.inl (by rw [isParent]; rfl))
  · have isName : IsName segment := ⟨empty, isDot, isParent, whole⟩
    exact .inr (.inr ⟨isName, component?_of_isName isName⟩)

theorem components_of_slash_notMem
    {segment : Octets}
    (whole : slash ∉ segment) :
    components segment = (firstComponent? false segment).toList := by
  rw [components_eq_of_cut (segments_of_slash_notMem whole),
    isAbsolute_of_slash_notMem whole, List.filterMap_nil, List.append_nil]

/-- The components of a path that is cut behind its last slash. -/
theorem components_lastSegment
    {segment : Octets}
    (whole : slash ∉ segment)
    (base : Path) :
    (base ++ [slash] ++ segment).components =
      (base ++ [slash]).components ++ (component? segment).toList := by
  rw [List.append_assoc, List.singleton_append, components_append_slash,
    segments_of_slash_notMem whole, List.filterMap_cons]
  cases component? segment <;> rfl

/-- A path that ends in a name consists of what leads to the name, the name, and a tail
that means nothing. -/
theorem exists_tail_of_fileName?
    {path : Path}
    {name : Octets}
    (named : path.fileName? = some name) :
    IsName name ∧ ∃ front tail, path = front ++ name ++ tail ∧
      (front = [] ∨ ∃ base, front = base ++ [slash]) ∧ IsIdleTail tail := by
  induction size : path.length using Nat.strongRecOn generalizing path with
  | ind size inductionHypothesis =>
      subst size
      obtain ⟨front, segment, rfl, whole, closed⟩ := exists_lastSegment path
      rw [fileName?_eq_some_iff_getLast?] at named
      rcases closed with rfl | ⟨base, rfl⟩
      · rw [List.nil_append, components_of_slash_notMem whole] at named
        have notDot : segment ≠ dot := by
          rintro rfl
          simp [firstComponent?] at named
        rw [firstComponent?, if_neg Bool.false_ne_true, if_neg notDot] at named
        rcases component?_cases whole with idle | isParent | ⟨isName, means⟩
        · have nothing : component? segment = none := by simpa [isIdle] using idle
          simp [nothing] at named
        · simp [isParent] at named
        · obtain rfl : segment = name := by simpa [means] using named
          exact ⟨isName, [], [], by simp, .inl rfl, .nil⟩
      · rw [components_lastSegment whole] at named
        rcases component?_cases whole with idle | isParent | ⟨isName, means⟩
        · have nothing : component? segment = none := by simpa [isIdle] using idle
          rw [nothing, Option.toList_none, List.append_nil] at named
          rcases eq_or_ne base [] with rfl | nonempty
          · have isRoot : ([] ++ [slash] : Path).components = [.root] := by decide
            rw [isRoot] at named
            simp at named
          · rw [components_concat_slash nonempty, ← fileName?_eq_some_iff_getLast?]
              at named
            obtain ⟨isName, front, tail, rfl, leads, tailIdle⟩ :=
              inductionHypothesis _ (by simp) named rfl
            refine ⟨isName, front, tail ++ slash :: segment, by simp, leads, ?_⟩
            exact tailIdle.append (isIdleTail_of_isIdle idle)
        · simp [isParent] at named
        · obtain rfl : segment = name := by simpa [means] using named
          exact ⟨isName, base ++ [slash], [], (List.append_nil _).symm,
            .inr ⟨base, rfl⟩, .nil⟩

/-- The name at the end of a path: in front of it stands nothing or a slash, and behind
it nothing that has a meaning. -/
theorem fileName?_eq_some_iff {path : Path} {name : Octets} :
    path.fileName? = some name ↔
      IsName name ∧ ∃ front tail, path = front ++ name ++ tail ∧
        (front = [] ∨ ∃ base, front = base ++ [slash]) ∧ IsIdleTail tail := by
  constructor
  · exact exists_tail_of_fileName?
  · rintro ⟨isName, front, tail, rfl, closed, idle⟩
    have joined : front ++ name = front.join name := by
      rw [join_eq_stem_append isName]
      rcases closed with rfl | ⟨base, rfl⟩
      · rfl
      · rw [stem_concat_slash]
    rw [fileName?_eq_some_iff_getLast?, joined,
      components_append_idleTail (join_ne_nil isName front) idle,
      ← fileName?_eq_some_iff_getLast?, fileName?_join isName]

/-! ## Extensions -/

theorem extensionOfName?_append_dot
    {stem extension : Octets}
    (noDot : 0x2E ∉ extension) :
    extensionOfName? (stem ++ 0x2E :: extension) = if stem = [] then none
      else some extension := by
  have others : ∀ octet ∈ extension.reverse, (octet != 0x2E) = true := by
    intro octet present
    exact bne_iff_ne.mpr fun isDot => noDot (isDot ▸ List.mem_reverse.mp present)
  have behind : (stem ++ 0x2E :: extension).reverse.takeWhile (· != 0x2E) =
      extension.reverse := by
    rw [List.reverse_append, List.reverse_cons, List.append_assoc,
      List.takeWhile_append_of_pos others]
    simp
  simp only [extensionOfName?, behind, List.reverse_reverse,
    List.length_append, List.length_cons, List.length_reverse]
  refine if_congr ?_ rfl rfl
  rw [← List.length_eq_zero_iff]
  omega

theorem extensionOfName?_of_noDot
    {name : Octets}
    (noDot : 0x2E ∉ name) :
    extensionOfName? name = none := by
  have others : ∀ octet ∈ name.reverse, (octet != 0x2E) = true := by
    intro octet present
    exact bne_iff_ne.mpr fun isDot => noDot (isDot ▸ List.mem_reverse.mp present)
  have behind : name.reverse.takeWhile (· != 0x2E) = name.reverse :=
    List.takeWhile_eq_self_iff.mpr others
  simp only [extensionOfName?, behind, List.length_reverse]
  exact if_pos (Nat.le_succ _)

/-- The extension of a name is what follows its last dot, if something stands in front
of that dot. -/
theorem extensionOfName?_eq_some_iff {name extension : Octets} :
    extensionOfName? name = some extension ↔
      ∃ stem, name = stem ++ 0x2E :: extension ∧ stem ≠ [] ∧ 0x2E ∉ extension := by
  constructor
  · intro found
    by_cases dotted : 0x2E ∈ name
    · obtain ⟨behind, before, cut, noDot⟩ :=
        List.eq_append_cons_of_mem (List.mem_reverse.mpr dotted)
      obtain rfl : name = before.reverse ++ 0x2E :: behind.reverse := by
        rw [← List.reverse_reverse name, cut]
        simp
      have alsoNoDot : 0x2E ∉ behind.reverse :=
        fun present => noDot (List.mem_reverse.mp present)
      rw [extensionOfName?_append_dot alsoNoDot] at found
      obtain ⟨nonempty, same⟩ := Option.ite_none_left_eq_some.mp found
      obtain rfl := Option.some.inj same
      exact ⟨_, rfl, nonempty, alsoNoDot⟩
    · rw [extensionOfName?_of_noDot dotted] at found
      cases found
  · rintro ⟨stem, rfl, nonempty, noDot⟩
    rw [extensionOfName?_append_dot noDot, if_neg nonempty]

end Path
end ScriptAudit
