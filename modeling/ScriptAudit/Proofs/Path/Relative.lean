import ScriptAudit.Proofs.Path.Components

/-!
# Paths seen from a root

What is appended to a root is seen from it as a relative path: removing the root leaves
the components of what was appended, apart from a leading dot. As long as nothing that
was appended leads to a parent directory, the path that is seen cannot leave the root,
and joining it to the root leads to the same components again.
-/

namespace ScriptAudit

open Text (Octets)

namespace Path

/-! ## Segments that are put together -/

theorem slash_notMem_of_mem_segments
    {path : Path}
    {segment : Octets}
    (member : segment ∈ path.segments) :
    slash ∉ segment := by
  obtain ⟨index, found⟩ := List.mem_iff_getElem?.mp member
  obtain ⟨before, behind, isPiece, _⟩ := Text.exists_isPiece found
  intro present
  have different := isPiece.whole slash present
  simp at different

/-- Segments that are put together are cut at the same places again. -/
theorem segments_joinSegments
    {parts : List Octets}
    (nonempty : parts ≠ [])
    (whole : ∀ part ∈ parts, slash ∉ part) :
    segments (joinSegments parts) = parts := by
  induction parts with
  | nil => exact absurd rfl nonempty
  | cons first rest inductionHypothesis =>
      have firstWhole : slash ∉ first := whole first List.mem_cons_self
      cases rest with
      | nil => exact segments_of_slash_notMem firstWhole
      | cons second rest =>
          have later := inductionHypothesis (List.cons_ne_nil second rest)
            (fun part present => whole part (List.mem_cons_of_mem first present))
          rw [joinSegments_cons_cons, segments_append_slash,
            segments_of_slash_notMem firstWhole, later, List.singleton_append]

/-! ## Components of relative paths -/

theorem component?_ne_current (segment : Octets) :
    component? segment ≠ some .current := by
  unfold component?
  split
  · simp
  · split <;> simp

theorem component?_of_isName
    {name : Octets}
    (isName : IsName name) :
    component? name = some (.name name) := by
  simp [component?, isName.ne_nil, isName.ne_dot, isName.ne_dotDot]

theorem current_notMem_filterMap (parts : List Octets) :
    .current ∉ parts.filterMap component? := by
  intro member
  obtain ⟨segment, _, means⟩ := List.mem_filterMap.mp member
  exact component?_ne_current segment means

/-- What a relative path appends to a base are its components without a dot at the
start. -/
theorem filterMap_segments
    {path : Path}
    (relative : path.isAbsolute = false) :
    path.segments.filterMap component? = path.components.filter (· ≠ .current) := by
  obtain ⟨first, rest, cut⟩ := List.exists_cons_of_ne_nil path.segments_ne_nil
  have behind : (rest.filterMap component?).filter (· ≠ .current) =
      rest.filterMap component? := by
    refine List.filter_eq_self.mpr fun component member => decide_eq_true ?_
    exact fun same => current_notMem_filterMap rest (same ▸ member)
  rw [components, meanings_eq, cut, relative, marked, List.filterMap_cons,
    List.filterMap_cons, filterMap_markedBehind]
  by_cases isDot : first = dot
  · have idle : component? first = none := by simp [component?, isDot]
    simp only [firstComponent?, Bool.false_eq_true, if_false, isDot, if_true] at idle ⊢
    rw [idle, List.filter_cons_of_neg (by simp)]
    exact behind.symm
  · have same : firstComponent? false first = component? first := by
      simp [firstComponent?, isDot]
    rw [same]
    cases means : component? first with
    | none => exact behind.symm
    | some component =>
        have visible : component ≠ .current := fun isCurrent =>
          component?_ne_current first (isCurrent ▸ means)
        rw [List.filter_cons_of_pos (by simpa using visible)]
        exact congrArg (component :: ·) behind.symm

/-- Joining names adds them to the components. -/
theorem components_descend
    {base : Path}
    {names : List Octets}
    (nonempty : base ≠ [])
    (areNames : ∀ name ∈ names, IsName name) :
    (base.descend names).components = base.components ++ names.map .name := by
  induction names generalizing base with
  | nil => simp
  | cons name names inductionHypothesis =>
      have isName : IsName name := areNames name List.mem_cons_self
      have others : ∀ other ∈ names, IsName other := fun other later =>
        areNames other (List.mem_cons_of_mem name later)
      rw [descend_cons, inductionHypothesis (join_ne_nil isName base) others,
        join_eq_stem_append isName, components_stem_append nonempty,
        segments_of_slash_notMem isName.slash_notMem]
      simp [component?_of_isName isName]

/-! ## Paths without idle ends -/

/-- The segments of a path without those at its ends that mean nothing. -/
def busySegments (path : Path) : List Octets :=
  ((path.segments.dropWhile isIdle).reverse.dropWhile isIdle).reverse

theorem trimmed_eq (path : Path) : path.trimmed = joinSegments path.busySegments := rfl

theorem filterMap_dropWhile_isIdle (parts : List Octets) :
    (parts.dropWhile isIdle).filterMap component? = parts.filterMap component? := by
  induction parts with
  | nil => rfl
  | cons first rest inductionHypothesis =>
      cases means : component? first with
      | none => simp [isIdle, means, inductionHypothesis]
      | some component => simp [isIdle, means]

theorem filterMap_busySegments (path : Path) :
    path.busySegments.filterMap component? = path.segments.filterMap component? := by
  rw [busySegments, List.filterMap_reverse, filterMap_dropWhile_isIdle,
    List.filterMap_reverse, List.reverse_reverse, filterMap_dropWhile_isIdle]

theorem slash_notMem_of_mem_busySegments
    {path : Path}
    {segment : Octets}
    (member : segment ∈ path.busySegments) :
    slash ∉ segment := by
  have inside := (List.dropWhile_sublist isIdle).subset (List.mem_reverse.mp member)
  exact slash_notMem_of_mem_segments
    ((List.dropWhile_sublist isIdle).subset (List.mem_reverse.mp inside))

/-- A path without idle ends starts with a segment that means something. -/
theorem isIdle_head_busySegments
    {path : Path}
    {first : Octets}
    {rest : List Octets}
    (starts : path.busySegments = first :: rest) :
    isIdle first = false := by
  have isPrefix : path.busySegments <+: path.segments.dropWhile isIdle := by
    rw [← List.reverse_suffix, busySegments, List.reverse_reverse]
    exact List.dropWhile_suffix isIdle
  obtain ⟨behind, whole⟩ := isPrefix
  have heads := List.head?_dropWhile_not isIdle path.segments
  rw [← whole, starts] at heads
  simpa using heads

/-- A path without idle ends is relative, and none of its components is a dot. -/
theorem trimmed_spec (path : Path) :
    path.trimmed.isAbsolute = false ∧
      path.trimmed.components = path.segments.filterMap component? := by
  rw [← filterMap_busySegments, trimmed_eq]
  cases starts : path.busySegments with
  | nil => exact ⟨rfl, rfl⟩
  | cons first rest =>
      have busy := isIdle_head_busySegments starts
      have notDot : first ≠ dot := by
        rintro rfl
        cases busy
      have notEmpty : first ≠ [] := by
        rintro rfl
        cases busy
      have whole : ∀ part ∈ first :: rest, slash ∉ part := fun part present =>
        slash_notMem_of_mem_busySegments (starts ▸ present)
      have relative : (joinSegments (first :: rest)).isAbsolute = false := by
        rw [isAbsolute_joinSegments_cons notEmpty,
          isAbsolute_of_slash_notMem (whole first List.mem_cons_self)]
      refine ⟨relative, ?_⟩
      have cut := segments_joinSegments (List.cons_ne_nil first rest) whole
      rw [components_eq_of_cut cut, relative, firstComponent?, if_neg Bool.false_ne_true,
        if_neg notDot, List.filterMap_cons]
      cases component? first <;> rfl

/-! ## Below a root -/

/-- What is seen from a root of a path that leads through names from a directory below
it. -/
structure SeenFrom
    (root scripts : Path)
    (names : List Octets)
    (seen : Path) : Prop where
  stripped : stripPrefix? root ((root.join scripts).descend names) = some seen
  components_eq :
    seen.components = scripts.components.filter (· ≠ .current) ++ names.map .name
  isRelative : seen.isAbsolute = false
  parent_notMem : .parent ∉ seen.components
  components_join :
    (root.join seen).components = ((root.join scripts).descend names).components

theorem SeenFrom.relativeTo_eq
    {root scripts seen : Path}
    {names : List Octets}
    (seenFrom : SeenFrom root scripts names seen) :
    relativeTo root ((root.join scripts).descend names) = seen := by
  rw [relativeTo, seenFrom.stripped, Option.getD_some]

/-- Of a path below a root that never leads to a parent directory, exactly the part
behind the root is seen from there. -/
theorem seenFrom_trimmed
    {root scripts : Path}
    {names : List Octets}
    (rootNonempty : root ≠ [])
    (nonempty : scripts ≠ [])
    (relative : scripts.isAbsolute = false)
    (noParent : .parent ∉ scripts.components)
    (areNames : ∀ name ∈ names, IsName name) :
    SeenFrom root scripts names (scripts.descend names).trimmed := by
  obtain ⟨isRelative, seenComponents⟩ := trimmed_spec (scripts.descend names)
  have walked : (root.join scripts).descend names = root.stem ++
      scripts.descend names := by
    rw [join_eq_append relative, descend_stem_append rootNonempty areNames]
  have belowRelative : (scripts.descend names).isAbsolute = false := by
    rw [isAbsolute_descend nonempty areNames, relative]
  have components_eq : (scripts.descend names).trimmed.components =
      scripts.components.filter (· ≠ .current) ++ names.map .name := by
    rw [seenComponents, filterMap_segments belowRelative,
      components_descend nonempty areNames, List.filter_append]
    simp
  constructor
  · rw [walked, stripPrefix?_stem_append rootNonempty]
  · exact components_eq
  · exact isRelative
  · simp [components_eq, noParent]
  · have noDot : (scripts.descend names).trimmed.components.filter (· ≠ .current) =
        (scripts.descend names).trimmed.components := by
      refine List.filter_eq_self.mpr fun component member => decide_eq_true ?_
      rw [seenComponents] at member
      exact fun same => current_notMem_filterMap _ (same ▸ member)
    rw [join_eq_append isRelative, components_stem_append rootNonempty,
      filterMap_segments isRelative, noDot, seenComponents, walked,
      components_stem_append rootNonempty]

end Path
end ScriptAudit
