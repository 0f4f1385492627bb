import ScriptAudit.Proofs.Path.LastName

/-!
# Paths without anything superfluous

Only the first component of a path can be the root or the current directory. Components
in such an order are read again exactly as they were written, so that writing down the
components of a path gives one path for all those with the same components. In it no
segment is empty or a dot, apart from the first one and from the root.
-/

namespace ScriptAudit

open Text (Octets)

namespace Path

/-! ## Components that a path can have -/

namespace Component

/-- Whether a component can stand behind another one. -/
def IsStep : Component → Prop
  | .root | .current => False
  | .parent => True
  | .name octets => IsName octets

/-- Whether a component can be the first one of a path. -/
def IsStart (component : Component) : Prop :=
  component = .root ∨ component = .current ∨ component.IsStep

/-- Whether components can be those of a path. -/
def AreOrdered : List Component → Prop
  | [] => True
  | first :: rest => first.IsStart ∧ ∀ component ∈ rest, component.IsStep

theorem IsStep.slash_notMem
    {component : Component}
    (isStep : component.IsStep) :
    slash ∉ component.octets := by
  cases component with
  | root => exact isStep.elim
  | current => exact isStep.elim
  | parent => decide
  | name octets => exact IsName.slash_notMem isStep

theorem IsStep.octets_ne_nil
    {component : Component}
    (isStep : component.IsStep) :
    component.octets ≠ [] := by
  cases component with
  | root => exact isStep.elim
  | current => exact isStep.elim
  | parent => decide
  | name octets => exact IsName.ne_nil isStep

/-- A component behind another one is read as it is written. -/
theorem IsStep.component?_octets
    {component : Component}
    (isStep : component.IsStep) :
    component? component.octets = some component := by
  cases component with
  | root => exact isStep.elim
  | current => exact isStep.elim
  | parent => rfl
  | name octets => exact component?_of_isName isStep

theorem IsStart.slash_notMem
    {component : Component}
    (isStart : component.IsStart) :
    slash ∉ component.octets := by
  rcases isStart with rfl | rfl | isStep
  · decide
  · decide
  · exact isStep.slash_notMem

end Component

open Component (AreOrdered)

/-- A segment that means something is what is written for its meaning. -/
theorem isStep_of_component?
    {segment : Octets}
    {component : Component}
    (whole : slash ∉ segment)
    (means : component? segment = some component) :
    component.IsStep ∧ component.octets = segment := by
  unfold component? at means
  split at means
  · cases means
  · rename_i busy
    simp only [Bool.or_eq_true, decide_eq_true_eq, not_or] at busy
    split at means
    · rename_i isParent
      cases means
      exact ⟨trivial, isParent.symm⟩
    · rename_i noParent
      cases means
      exact ⟨⟨busy.1, busy.2, noParent, whole⟩, rfl⟩

/-- The first segment means the root, the current directory, or what it means elsewhere.
-/
theorem firstComponent?_eq_some
    {absolute : Bool}
    {segment : Octets}
    {component : Component}
    (means : firstComponent? absolute segment = some component) :
    component = .root ∨ component = .current ∨ component? segment = some component := by
  unfold firstComponent? at means
  split at means
  · exact .inl (Option.some.inj means).symm
  · split at means
    · exact .inr (.inl (Option.some.inj means).symm)
    · exact .inr (.inr means)

/-- Behind its first component a path leads through names and parent directories only.
-/
theorem components_areOrdered (path : Path) : AreOrdered path.components := by
  obtain ⟨first, rest, cut⟩ := List.exists_cons_of_ne_nil path.segments_ne_nil
  have whole : ∀ segment ∈ first :: rest, slash ∉ segment := fun segment member =>
    slash_notMem_of_mem_segments (cut ▸ member)
  have behind : ∀ component ∈ rest.filterMap component?, component.IsStep := by
    intro component member
    obtain ⟨segment, present, means⟩ := List.mem_filterMap.mp member
    exact (isStep_of_component?
      (whole segment (List.mem_cons_of_mem first present)) means).1
  rw [components_eq_of_cut cut]
  cases starts : firstComponent? path.isAbsolute first with
  | none =>
      rw [Option.toList_none, List.nil_append]
      cases steps : rest.filterMap component? with
      | nil => trivial
      | cons second later =>
          rw [steps] at behind
          exact ⟨.inr (.inr (behind second List.mem_cons_self)),
            fun component member => behind component (List.mem_cons_of_mem second member)⟩
  | some component =>
      refine ⟨?_, behind⟩
      rcases firstComponent?_eq_some starts with isRoot | isCurrent | means
      · exact .inl isRoot
      · exact .inr (.inl isCurrent)
      · exact .inr (.inr (isStep_of_component? (whole first List.mem_cons_self) means).1)

theorem firstComponent?_eq_none_iff {absolute : Bool} {segment : Octets} :
    firstComponent? absolute segment = none ↔ absolute = false ∧ segment = [] := by
  cases absolute with
  | true => simp [firstComponent?]
  | false =>
      by_cases isDot : segment = dot
      · simp [firstComponent?, isDot, dot]
      · simp [firstComponent?, isDot, component?_eq_none_iff]

/-- A path that does not start with a slash has its first octet in its first segment. -/
theorem exists_segments_cons
    {octet : UInt8}
    (different : octet ≠ slash)
    (octets : Octets) :
    ∃ piece rest, segments (octet :: octets) = (octet :: piece) :: rest := by
  obtain ⟨piece, rest, cut⟩ := List.exists_cons_of_ne_nil (segments_ne_nil octets)
  refine ⟨piece, rest, ?_⟩
  rw [segments] at cut ⊢
  rw [Text.splitAt_cons, cut]
  exact if_neg (by simpa using different)

/-- Only the empty path has no components. -/
theorem components_eq_nil_iff {path : Path} : path.components = [] ↔ path = [] := by
  constructor
  · intro noComponents
    cases path with
    | nil => rfl
    | cons octet octets =>
        obtain ⟨first, rest, cut⟩ :=
          List.exists_cons_of_ne_nil (segments_ne_nil (octet :: octets))
        rw [components_eq_of_cut cut, List.append_eq_nil_iff, Option.toList_eq_nil_iff,
          firstComponent?_eq_none_iff] at noComponents
        obtain ⟨⟨relative, rfl⟩, -⟩ := noComponents
        have different : octet ≠ slash := by simpa [isAbsolute] using relative
        obtain ⟨piece, later, starts⟩ := exists_segments_cons different octets
        cases cut.symm.trans starts
  · rintro rfl
    rfl

/-! ## Components that are written down -/

theorem segments_ofComponents
    {first : Component}
    {rest : List Component}
    (ordered : AreOrdered (first :: rest))
    (notRoot : first :: rest ≠ [.root]) :
    (ofComponents (first :: rest)).segments =
      first.octets :: rest.map Component.octets := by
  rw [ofComponents, if_neg notRoot, List.map_cons]
  refine segments_joinSegments (List.cons_ne_nil _ _) fun part member => ?_
  rcases List.mem_cons.mp member with rfl | later
  · exact ordered.1.slash_notMem
  · obtain ⟨component, present, rfl⟩ := List.mem_map.mp later
    exact (ordered.2 component present).slash_notMem

/-- The first component is read as it is written. -/
theorem firstComponent?_ofComponents
    {first : Component}
    {rest : List Component}
    (isStart : first.IsStart)
    (notRoot : first :: rest ≠ [.root]) :
    firstComponent? (ofComponents (first :: rest)).isAbsolute first.octets =
      some first := by
  rw [ofComponents, if_neg notRoot, List.map_cons]
  rcases isStart with rfl | rfl | isStep
  · cases rest with
    | nil => exact absurd rfl notRoot
    | cons second rest => rfl
  · rw [isAbsolute_joinSegments_cons (by decide)]
    rfl
  · have relative : isAbsolute first.octets = false :=
      isAbsolute_of_slash_notMem isStep.slash_notMem
    have noDot : first.octets ≠ dot := by
      intro isDot
      have means := isStep.component?_octets
      rw [isDot] at means
      cases means
    rw [isAbsolute_joinSegments_cons isStep.octets_ne_nil, relative, firstComponent?,
      if_neg Bool.false_ne_true, if_neg noDot]
    exact isStep.component?_octets

/-- Components that are written down are read again. -/
theorem components_ofComponents
    {components : List Component}
    (ordered : AreOrdered components) :
    (ofComponents components).components = components := by
  cases components with
  | nil => rfl
  | cons first rest =>
      by_cases isRoot : first :: rest = [.root]
      · rw [isRoot]
        rfl
      · have behind : (rest.map Component.octets).filterMap component? = rest := by
          rw [List.filterMap_map]
          calc rest.filterMap (component? ∘ Component.octets)
              = rest.filterMap some := List.filterMap_congr fun component member =>
                (ordered.2 component member).component?_octets
            _ = rest := List.filterMap_some
        rw [components_eq_of_cut (segments_ofComponents ordered isRoot),
          firstComponent?_ofComponents ordered.1 isRoot, behind]
        rfl

/-! ## Compact paths -/

/-- Whether nothing in a path is superfluous: it is the root, or no segment behind its
first one is empty or a dot. -/
def IsCompact (path : Path) : Prop :=
  path = [slash] ∨ ∀ segment ∈ path.segments.tail, isIdle segment = false

theorem slash_notMem_of_isIdle
    {segment : Octets}
    (idle : isIdle segment = true) :
    slash ∉ segment := by
  rcases component?_eq_none_iff.mp (Option.isNone_iff_eq_none.mp idle) with rfl | rfl
  · exact List.not_mem_nil
  · decide

namespace IsCompact

variable {path before after : Path} {segment : Octets}

/-- Only the root is compact although a segment behind a slash is idle. -/
theorem eq_root
    (compact : IsCompact (before ++ slash :: after))
    (idle : isIdle segment = true)
    (member : segment ∈ after.segments) :
    before ++ slash :: after = [slash] := by
  refine compact.resolve_right fun busy => ?_
  rw [segments_append_slash, List.tail_append_of_ne_nil before.segments_ne_nil] at busy
  have means := busy segment (List.mem_append_right _ member)
  rw [idle] at means
  cases means

/-- A compact path has no idle segment between two slashes. -/
theorem not_infix
    (compact : IsCompact path)
    (idle : isIdle segment = true) :
    ¬(slash :: segment ++ [slash]) <:+: path := by
  rintro ⟨before, after, rfl⟩
  have cut : before ++ (slash :: segment ++ [slash]) ++ after =
      before ++ slash :: (segment ++ slash :: after) := by simp
  have member : segment ∈ segments (segment ++ slash :: after) := by
    simp [segments_append_slash, segments_of_slash_notMem (slash_notMem_of_isIdle idle)]
  rw [cut] at compact
  have size := congrArg List.length (compact.eq_root idle member)
  simp only [List.length_append, List.length_cons, List.length_nil] at size
  omega

/-- A compact path does not end in an idle segment behind a slash unless it is the root.
-/
theorem eq_root_of_suffix
    (compact : IsCompact path)
    (idle : isIdle segment = true)
    (ends : slash :: segment <:+ path) :
    path = [slash] := by
  obtain ⟨before, rfl⟩ := ends
  refine compact.eq_root idle ?_
  simp [segments_of_slash_notMem (slash_notMem_of_isIdle idle)]

end IsCompact

theorem isCompact_ofComponents
    {components : List Component}
    (ordered : AreOrdered components) :
    IsCompact (ofComponents components) := by
  cases components with
  | nil => exact .inr (by decide)
  | cons first rest =>
      by_cases isRoot : first :: rest = [.root]
      · exact .inl (if_pos isRoot)
      · refine .inr fun segment member => ?_
        rw [segments_ofComponents ordered isRoot, List.tail_cons] at member
        obtain ⟨component, present, rfl⟩ := List.mem_map.mp member
        rw [isIdle, (ordered.2 component present).component?_octets]
        rfl

/-! ## The canonical path -/

/-- The path that is written from the components of a path. -/
def canonical (path : Path) : Path :=
  ofComponents path.components

theorem components_canonical (path : Path) :
    path.canonical.components = path.components :=
  components_ofComponents path.components_areOrdered

theorem isCompact_canonical (path : Path) : path.canonical.IsCompact :=
  isCompact_ofComponents path.components_areOrdered

/-- Paths have one canonical path exactly if they have the same components. -/
theorem canonical_eq_canonical_iff {first second : Path} :
    first.canonical = second.canonical ↔ first.components = second.components := by
  constructor
  · intro same
    rw [← components_canonical first, same, components_canonical]
  · exact congrArg ofComponents

end Path
end ScriptAudit
