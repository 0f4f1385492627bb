import Mathlib.Data.List.TakeWhile
import ScriptAudit.Proofs.Text.Pieces

/-!
# Excerpts of lines

A line is trimmed by taking away the blank characters at both of its ends, and no
others. An excerpt is what stands at the start of the trimmed line.
-/

namespace ScriptAudit
namespace Text

/-- A line without the blank characters around it. -/
structure IsTrimmed (line trimmed : List Char) : Prop where
  within : ∃ before behind, line = before ++ trimmed ++ behind ∧
    (∀ char ∈ before, isBlank char = true) ∧ ∀ char ∈ behind, isBlank char = true
  starts : ∀ char, trimmed.head? = some char → isBlank char = false
  ends : ∀ char, trimmed.getLast? = some char → isBlank char = false

theorem isBlank_head?_dropWhile
    {chars : List Char}
    {char : Char}
    (first : (chars.dropWhile isBlank).head? = some char) :
    isBlank char = false := by
  have notBlank := List.head?_dropWhile_not isBlank chars
  rwa [first] at notBlank

theorem isTrimmed_trim (line : List Char) : IsTrimmed line (trim line) := by
  let behind := ((line.dropWhile isBlank).reverse.takeWhile isBlank).reverse
  have right : trim line ++ behind = line.dropWhile isBlank := by
    rw [trim, ← List.reverse_append, List.takeWhile_append_dropWhile,
      List.reverse_reverse]
  refine ⟨⟨line.takeWhile isBlank, behind, ?_,
    fun char => List.mem_takeWhile_imp, ?_⟩, ?_, ?_⟩
  · rw [List.append_assoc, right, List.takeWhile_append_dropWhile]
  · intro char member
    exact List.mem_takeWhile_imp (List.mem_reverse.mp member)
  · intro char first
    have leads : (line.dropWhile isBlank).head? = some char := by
      rw [← right, List.head?_append, first]
      rfl
    exact isBlank_head?_dropWhile leads
  · intro char last
    rw [trim, List.getLast?_reverse] at last
    exact isBlank_head?_dropWhile last

/-- What is quoted from a line: the first characters of the trimmed line, a hundred of
them if there are as many. -/
structure IsExcerpt (line : List Char) (quoted : String) : Prop where
  quotes : ∃ trimmed, IsTrimmed line trimmed ∧ quoted.toList <+: trimmed ∧
    quoted.length = min 100 trimmed.length
  starts : ∀ char, quoted.toList.head? = some char → isBlank char = false

theorem isExcerpt_excerpt (line : List Char) : IsExcerpt line (excerpt line) := by
  have trimmed := isTrimmed_trim line
  have whole : (excerpt line).toList = (trim line).take 100 := by
    rw [excerpt, String.toList_ofList]
    rfl
  refine ⟨⟨trim line, trimmed, ?_, ?_⟩, fun char first => ?_⟩
  · rw [whole]
    exact List.take_prefix _ _
  · rw [← String.length_toList, whole, List.length_take]
  · rw [whole, List.head?_take] at first
    exact trimmed.starts char (by simpa using first)

/-- An excerpt has no characters but those of its line. -/
theorem IsExcerpt.subset
    {line : List Char}
    {quoted : String}
    (isExcerpt : IsExcerpt line quoted) :
    quoted.toList ⊆ line := by
  obtain ⟨trimmed, ⟨⟨before, behind, rfl, _, _⟩, _, _⟩, isPrefix, _⟩ := isExcerpt.quotes
  intro char quotedChar
  have kept := isPrefix.subset quotedChar
  simp [kept]

/-- No line holds a line feed. -/
theorem not_mem_of_mem_lines
    {text line : List Char}
    (member : line ∈ lines text) :
    '\n' ∉ line := by
  obtain ⟨index, found⟩ := List.mem_iff_getElem?.mp member
  obtain ⟨before, behind, isPiece, -⟩ := exists_isPiece found
  intro contained
  simpa using isPiece.whole '\n' contained

end Text
end ScriptAudit
