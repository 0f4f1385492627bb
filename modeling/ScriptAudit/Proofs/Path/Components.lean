import ScriptAudit.Language
import ScriptAudit.Proofs.Path.Names

/-!
# Components of joined paths

Whatever is appended to a path adds its components behind those of the path. Removing
these again leaves what was appended, without segments that mean nothing at its ends.
How a path is spelled therefore makes no difference to what is seen below it.
-/

namespace ScriptAudit

open Text (Octets)

namespace Path

/-! ## Segments and their meanings -/

/-- Segments behind the first one with their meanings. -/
def markedBehind (segments : List Octets) : List (Octets × Option Component) :=
  segments.map fun segment => (segment, component? segment)

/-- Segments with their meanings. -/
def marked (absolute : Bool) : List Octets → List (Octets × Option Component)
  | [] => []
  | first :: rest => (first, firstComponent? absolute first) :: markedBehind rest

theorem meanings_eq (path : Path) :
    path.meanings = marked path.isAbsolute path.segments := by
  unfold meanings
  cases path.segments <;> rfl

theorem marked_append
    {first : List Octets}
    (nonempty : first ≠ [])
    (absolute : Bool)
    (second : List Octets) :
    marked absolute (first ++ second) = marked absolute first ++ markedBehind second := by
  obtain ⟨segment, rest, rfl⟩ := List.exists_cons_of_ne_nil nonempty
  simp [marked, markedBehind]

theorem segments_ne_nil (path : Path) : path.segments ≠ [] :=
  Text.splitAt_ne_nil _ path

theorem isAbsolute_append
    {base : Path}
    (nonempty : base ≠ [])
    (after : Path) :
    (base ++ after).isAbsolute = base.isAbsolute := by
  obtain ⟨first, rest, rfl⟩ := List.exists_cons_of_ne_nil nonempty
  rfl

/-- Where segments that are put together start is known from the first one. -/
theorem isAbsolute_joinSegments_cons
    {first : Octets}
    (nonempty : first ≠ [])
    (rest : List Octets) :
    (joinSegments (first :: rest)).isAbsolute = isAbsolute first := by
  cases rest with
  | nil => rfl
  | cons second rest => exact isAbsolute_append nonempty _

/-- What stands behind a slash does not change what the segments before it mean. -/
theorem meanings_append_slash (front after : Path) :
    (front ++ slash :: after).meanings =
      marked (front ++ [slash]).isAbsolute front.segments ++
        markedBehind after.segments := by
  have sameStart : (front ++ slash :: after).isAbsolute =
      (front ++ [slash]).isAbsolute := by
    rw [List.append_cons, isAbsolute_append (by simp)]
  rw [meanings_eq, segments_append_slash, marked_append front.segments_ne_nil, sameStart]

theorem filterMap_markedBehind (segments : List Octets) :
    (markedBehind segments).filterMap (·.2) = segments.filterMap component? := by
  rw [markedBehind, List.filterMap_map]
  rfl

theorem components_eq_of_cut
    {path : Path}
    {first : Octets}
    {rest : List Octets}
    (cut : path.segments = first :: rest) :
    path.components =
      (firstComponent? path.isAbsolute first).toList ++ rest.filterMap component? := by
  rw [components, meanings_eq, cut, marked, List.filterMap_cons, filterMap_markedBehind]
  cases firstComponent? path.isAbsolute first <;> rfl

theorem components_concat_slash_eq (front : Path) :
    (front ++ [slash]).components =
      (marked (front ++ [slash]).isAbsolute front.segments).filterMap (·.2) := by
  rw [components, meanings_append_slash, List.filterMap_append, filterMap_markedBehind]
  simp [segments, component?]

theorem components_append_slash (front after : Path) :
    (front ++ slash :: after).components =
      (front ++ [slash]).components ++ after.segments.filterMap component? := by
  rw [components, meanings_append_slash, List.filterMap_append, filterMap_markedBehind,
    components_concat_slash_eq]

/-- A slash at the end of a path means nothing. -/
theorem components_concat_slash
    {base : Path}
    (nonempty : base ≠ []) :
    (base ++ [slash]).components = base.components := by
  rw [components_concat_slash_eq, isAbsolute_append nonempty, components, meanings_eq]

/-! ## What is appended to a path -/

theorem exists_stem_eq
    {base : Path}
    (nonempty : base ≠ []) :
    ∃ front, base.stem = front ++ [slash] := by
  rcases stem_eq_nil_or base with empty | closed
  · have noStem : base.stem ≠ [] := by
      unfold stem
      split
      · exact nonempty
      · simp
    exact absurd empty noStem
  · exact closed

theorem components_stem
    {base : Path}
    (nonempty : base ≠ []) :
    base.stem.components = base.components := by
  unfold stem
  split
  · rfl
  · exact components_concat_slash nonempty

/-- Appending to a path adds components behind its own. -/
theorem components_stem_append
    {base : Path}
    (nonempty : base ≠ [])
    (after : Path) :
    (base.stem ++ after).components =
      base.components ++ after.segments.filterMap component? := by
  obtain ⟨front, closed⟩ := exists_stem_eq nonempty
  rw [← components_stem nonempty, closed, List.append_assoc, List.singleton_append,
    components_append_slash]

theorem join_eq_append
    {base path : Path}
    (relative : path.isAbsolute = false) :
    base.join path = base.stem ++ path := by
  unfold join stem
  rw [relative, if_neg Bool.false_ne_true]
  split
  · rfl
  · simp

theorem stem_concat_slash (front : Path) :
    stem (front ++ [slash]) = front ++ [slash] := by
  simp [stem]

/-- Where a name can be appended to a path with something behind it is known from what
stands behind. -/
theorem stem_stem_append
    {base : Path}
    (nonempty : base ≠ [])
    (after : Path) :
    (base.stem ++ after).stem = base.stem ++ after.stem := by
  obtain ⟨front, closed⟩ := exists_stem_eq nonempty
  rcases eq_or_ne after [] with rfl | more
  · rw [closed, List.append_nil, stem_concat_slash]
    exact (List.append_nil _).symm
  · have sameEnd : (base.stem ++ after).getLast? = after.getLast? := by
      obtain ⟨before, last, rfl⟩ := (List.eq_nil_or_concat after).resolve_left more
      simp
    unfold stem at sameEnd ⊢
    rw [sameEnd]
    simp only [List.append_eq_nil_iff, more, and_false, decide_false, Bool.false_or]
    split <;> simp

/-- Names that are joined to what is appended to a path are appended with it. -/
theorem descend_stem_append
    {base : Path}
    {names : List Octets}
    (nonempty : base ≠ [])
    (areNames : ∀ name ∈ names, IsName name)
    (after : Path) :
    (base.stem ++ after).descend names = base.stem ++ after.descend names := by
  induction names generalizing after with
  | nil => rfl
  | cons name names inductionHypothesis =>
      have isName : IsName name := areNames name List.mem_cons_self
      have joined : (base.stem ++ after).join name = base.stem ++ after.join name := by
        rw [join_eq_stem_append isName, join_eq_stem_append isName,
          stem_stem_append nonempty, List.append_assoc]
      rw [descend_cons, descend_cons, joined]
      apply inductionHypothesis
      intro other member
      exact areNames other (List.mem_cons_of_mem name member)

/-! ## Removing a base again -/

/-- Whether a segment behind the first one means nothing. -/
def isIdle (segment : Octets) : Bool :=
  (component? segment).isNone

theorem component?_eq_none_iff {segment : Octets} :
    component? segment = none ↔ segment = [] ∨ segment = dot := by
  unfold component?
  split
  · simp_all
  · split <;> simp_all

/-- A path without segments at its ends that mean nothing, the first one taken as any
other. -/
def trimmed (path : Path) : Path :=
  joinSegments ((path.segments.dropWhile isIdle).reverse.dropWhile isIdle).reverse

theorem dropIdle_cons_none
    (segment : Octets)
    (rest : List (Octets × Option Component)) :
    dropIdle ((segment, none) :: rest) = dropIdle rest := rfl

/-- Removing all components of the front leaves what stands behind it, apart from
segments that mean nothing. -/
theorem dropIdle_dropComponents (front rest : List (Octets × Option Component)) :
    dropIdle (dropComponents (front.filterMap (·.2)).length (front ++ rest)) =
      dropIdle rest := by
  induction front with
  | nil => rw [List.nil_append, List.filterMap_nil, List.length_nil, dropComponents]
  | cons first front inductionHypothesis =>
      obtain ⟨segment, meaning⟩ := first
      cases meaning with
      | some component => exact inductionHypothesis
      | none =>
          rw [List.filterMap_cons, List.cons_append]
          cases left : (front.filterMap (·.2)).length with
          | zero =>
              rw [left] at inductionHypothesis
              simp only [dropComponents, dropIdle_cons_none] at inductionHypothesis ⊢
              exact inductionHypothesis
          | succ count =>
              rw [left] at inductionHypothesis
              simp only [dropComponents]
              exact inductionHypothesis

theorem dropIdle_markedBehind (segments : List Octets) :
    dropIdle (markedBehind segments) = markedBehind (segments.dropWhile isIdle) :=
  List.dropWhile_map ..

theorem reverse_markedBehind (segments : List Octets) :
    (markedBehind segments).reverse = markedBehind segments.reverse :=
  List.map_reverse.symm

theorem map_fst_markedBehind (segments : List Octets) :
    (markedBehind segments).map (·.1) = segments := by
  rw [markedBehind, List.map_map]
  exact List.map_id segments

/-- The remainder of a path is not a single empty segment. -/
theorem reverse_dropWhile_isIdle_ne (segments : List Octets) :
    (segments.dropWhile isIdle).reverse ≠ [[]] := by
  intro single
  have remains : segments.dropWhile isIdle = [[]] := by
    rw [← List.reverse_reverse (segments.dropWhile isIdle), single,
      List.reverse_singleton]
  have means := List.head?_dropWhile_not isIdle segments
  rw [remains] at means
  cases means

/-- Removing a path from what is appended to it leaves what was appended. -/
theorem stripPrefix?_stem_append
    {base : Path}
    (nonempty : base ≠ [])
    (after : Path) :
    stripPrefix? base (base.stem ++ after) = some after.trimmed := by
  obtain ⟨front, closed⟩ := exists_stem_eq nonempty
  have starts : base.components.isPrefixOf (base.stem ++ after).components = true := by
    rw [components_stem_append nonempty]
    simp
  have behind : dropIdle (dropComponents base.components.length
      (base.stem ++ after).meanings) =
        markedBehind (after.segments.dropWhile isIdle) := by
    rw [← components_stem nonempty, closed, components_concat_slash_eq, List.append_assoc,
      List.singleton_append, meanings_append_slash, dropIdle_dropComponents,
      dropIdle_markedBehind]
  -- this rules out the case in which only the root would be left
  have noSlash := reverse_dropWhile_isIdle_ne (after.segments.dropWhile isIdle).reverse
  simp only [stripPrefix?, if_pos starts, behind, reverse_markedBehind,
    dropIdle_markedBehind, map_fst_markedBehind]
  rfl

/-- What is seen from a path of what is appended to it is known from what is appended.
-/
theorem relativeTo_stem_append
    {base : Path}
    (nonempty : base ≠ [])
    (after : Path) :
    relativeTo base (base.stem ++ after) = after.trimmed := by
  rw [relativeTo, stripPrefix?_stem_append nonempty, Option.getD_some]

/-- What is seen from a base depends on its components only. -/
theorem relativeTo_congr
    {first second : Path}
    (same : first.components = second.components)
    (path : Path) :
    relativeTo first path = relativeTo second path := by
  rw [relativeTo, relativeTo, stripPrefix?, stripPrefix?, same]

/-! ## The name at the end -/

theorem fileName?_join
    {name : Octets}
    (isName : IsName name)
    (base : Path) :
    (base.join name).fileName? = some name := by
  have means : component? name = some (.name name) := by
    simp [component?, isName.ne_nil, isName.ne_dot, isName.ne_dotDot]
  have segments := segments_of_slash_notMem isName.slash_notMem
  have ends : (base.join name).components.getLast? = some (.name name) := by
    rw [join_eq_stem_append isName]
    rcases eq_or_ne base [] with rfl | nonempty
    · have alone : stem [] ++ name = name := rfl
      rw [alone, components, meanings_eq, segments, isName.isAbsolute_eq_false]
      simp [marked, markedBehind, firstComponent?, isName.ne_dot, means]
    · rw [components_stem_append nonempty, segments]
      simp [means]
  rw [fileName?, ends]

end Path

namespace Language

/-- The language of a script depends on the components of its path only. -/
theorem classify?_congr
    {first second : Path}
    (same : first.components = second.components) :
    classify? first = classify? second := by
  rw [classify?, classify?, Path.extension?, Path.extension?,
    Path.fileName?, Path.fileName?, same]

/-- The language of a script depends on its name only. -/
theorem classify?_join
    {name : Octets}
    (isName : Path.IsName name)
    (base : Path) :
    classify? (base.join name) = classify? name := by
  have alone : Path.fileName? name = some name := by
    have joined := Path.fileName?_join isName []
    rwa [Path.join_eq_stem_append isName] at joined
  rw [classify?, classify?, Path.extension?, Path.extension?,
    Path.fileName?_join isName, alone]

end Language
end ScriptAudit
