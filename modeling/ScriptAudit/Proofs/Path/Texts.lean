import ScriptAudit.Proofs.Path.Canonical
import ScriptAudit.Proofs.Text.Decoding

/-!
# Paths that are text

The octets of a text hold a slash only where the text does. The segments of a path that
can be read as text can be read themselves, and so can the canonical path.
-/

namespace ScriptAudit
namespace Text

/-- Whether octets are those of a text. -/
def IsText (octets : Octets) : Prop :=
  ∃ chars, octets = encode chars

theorem encode_append (first second : List Char) :
    encode (first ++ second) = encode first ++ encode second :=
  List.flatMap_append

theorem encode_injective : Function.Injective encode :=
  Function.LeftInverse.injective decodeLossy_encode

theorem IsText.append
    {first second : Octets}
    (isText : IsText first)
    (alsoText : IsText second) :
    IsText (first ++ second) := by
  obtain ⟨chars, rfl⟩ := isText
  obtain ⟨others, rfl⟩ := alsoText
  exact ⟨chars ++ others, (encode_append chars others).symm⟩

/-- An octet of ASCII stands for a character of its own. -/
theorem utf8EncodeChar_eq_of_mem
    {char : Char}
    {octet : UInt8}
    (member : octet ∈ String.utf8EncodeChar char)
    (ascii : octet.toNat < 0x80) :
    String.utf8EncodeChar char = [octet] := by
  have noOffset : ∀ code offset, 0x80 ≤ offset → code + offset < 0x100 →
      octet ≠ UInt8.ofNat (code + offset) := by
    rintro code offset beyond fits rfl
    rw [UInt8.toNat_ofNat_of_lt' fits] at ascii
    omega
  unfold String.utf8EncodeChar at member ⊢
  dsimp only at member ⊢
  split_ifs at member ⊢
  · rw [List.mem_singleton.mp member]
  all_goals simp (disch := omega) only [List.mem_cons, List.not_mem_nil,
    noOffset, or_self] at member

/-- A slash is written only where one stands. -/
theorem slash_notMem_encode
    {chars : List Char}
    (whole : ∀ char ∈ chars, (char == '/') = false) :
    Path.slash ∉ encode chars := by
  intro member
  obtain ⟨char, present, inside⟩ := List.mem_flatMap.mp member
  have alone : encode [char] = encode ['/'] := by
    rw [encode, List.flatMap_singleton, utf8EncodeChar_eq_of_mem inside (by decide)]
    decide
  obtain rfl := List.singleton_injective (encode_injective alone)
  cases whole '/' present

end Text

open Text (Octets IsText)

namespace Path

/-- A path that is text is cut where the text is. -/
theorem segments_encode (chars : List Char) :
    segments (Text.encode chars) = (Text.splitAt (· == '/') chars).map Text.encode := by
  induction chars using Text.piecewise_induction (· == '/') with
  | whole chars whole =>
      rw [segments_of_slash_notMem (Text.slash_notMem_encode whole),
        Text.splitAt_of_forall_not whole, List.map_singleton]
  | cut piece mark rest whole marks inductionHypothesis =>
      obtain rfl : mark = '/' := by simpa using marks
      have around : Text.encode (piece ++ '/' :: rest) =
          Text.encode piece ++ slash :: Text.encode rest :=
        Text.encode_append piece ('/' :: rest)
      rw [around, segments_append_slash,
        segments_of_slash_notMem (Text.slash_notMem_encode whole), inductionHypothesis,
        Text.splitAt_piece_cons whole rfl, List.map_cons, List.singleton_append]

theorem isText_of_mem_segments
    {path : Path}
    {segment : Octets}
    (isText : IsText path)
    (member : segment ∈ path.segments) :
    IsText segment := by
  obtain ⟨chars, rfl⟩ := isText
  rw [segments_encode] at member
  obtain ⟨piece, _, rfl⟩ := List.mem_map.mp member
  exact ⟨piece, rfl⟩

/-- The names among the components of a path are segments of it. -/
theorem mem_segments_of_name_mem
    {path : Path}
    {octets : Octets}
    (member : .name octets ∈ path.components) :
    octets ∈ path.segments := by
  obtain ⟨first, rest, cut⟩ := List.exists_cons_of_ne_nil path.segments_ne_nil
  have isSegment : ∀ segment ∈ path.segments, component? segment = some (.name octets) →
      octets ∈ path.segments := by
    intro segment present means
    have same : octets = segment :=
      (isStep_of_component? (slash_notMem_of_mem_segments present) means).2
    rwa [same]
  rw [components_eq_of_cut cut, List.mem_append, Option.mem_toList] at member
  rcases member with starts | later
  · rcases firstComponent?_eq_some starts with isRoot | isCurrent | means
    · cases isRoot
    · cases isCurrent
    · exact isSegment first (cut ▸ List.mem_cons_self) means
  · obtain ⟨segment, present, means⟩ := List.mem_filterMap.mp later
    exact isSegment segment (cut ▸ List.mem_cons_of_mem first present) means

theorem isText_octets
    {path : Path}
    {component : Component}
    (isText : IsText path)
    (member : component ∈ path.components) :
    IsText component.octets := by
  cases component with
  | root => exact ⟨[], rfl⟩
  | current => exact ⟨['.'], by decide⟩
  | parent => exact ⟨['.', '.'], by decide⟩
  | name octets => exact isText_of_mem_segments isText (mem_segments_of_name_mem member)

theorem isText_joinSegments
    {parts : List Octets}
    (areText : ∀ part ∈ parts, IsText part) :
    IsText (joinSegments parts) := by
  induction parts with
  | nil => exact ⟨[], rfl⟩
  | cons first rest inductionHypothesis =>
      have firstText : IsText first := areText first List.mem_cons_self
      cases rest with
      | nil => exact firstText
      | cons second rest =>
          have slashText : IsText [slash] := ⟨['/'], by decide⟩
          have later : IsText (joinSegments (second :: rest)) :=
            inductionHypothesis fun part present =>
              areText part (List.mem_cons_of_mem first present)
          exact firstText.append (slashText.append later)

/-- The canonical path of a path that is text is text. -/
theorem isText_canonical
    {path : Path}
    (isText : IsText path) :
    IsText path.canonical := by
  unfold canonical ofComponents
  split
  · exact ⟨['/'], by decide⟩
  · refine isText_joinSegments fun part present => ?_
    obtain ⟨component, member, rfl⟩ := List.mem_map.mp present
    exact isText_octets isText member

theorem isText_ofString (text : String) : IsText (ofString text) :=
  ⟨text.toList, rfl⟩

/-- A path that is text is written by what it is displayed as. -/
theorem ofString_display
    {path : Path}
    (isText : IsText path) :
    ofString path.display = path := by
  obtain ⟨chars, rfl⟩ := isText
  rw [display, Text.decodeLossy_encode, ofString, String.toList_ofList]

end Path
end ScriptAudit
