import Mathlib.Data.List.Forall2
import ScriptAudit.Text.Blank
import ScriptAudit.Text.CaseVariant
import ScriptAudit.Text.Digit
import ScriptAudit.Text.Word

/-!
# Forms of a letter

The forms of an ASCII letter are its small and its capital form; an s is also written as
a long s, and a k as a Kelvin sign. The case variants of an ASCII character are exactly
its other forms. Whether a character is blank, a digit or part of a word does not depend
on the form of a letter.
-/

namespace ScriptAudit
namespace Text

/-- What is said of the characters of a list is decided along the list, since there are
far more characters. -/
instance decidableForallMem
    (chars : List Char)
    (property : Char → Prop)
    [DecidablePred property] :
    Decidable (∀ char ∈ chars, property char) :=
  List.decidableBAll property chars

/-- What is said of at most one character is decided on that character. -/
instance decidableForallOption
    (char : Option Char)
    (property : Char → Prop)
    [DecidablePred property] :
    Decidable (∀ only ∈ char, property only) :=
  Option.decidableForallMem char

/-- The small form of a letter. Characters that are no form of an ASCII letter stay. -/
def smallForm (char : Char) : Char :=
  if char = '\u017f' then 's'
  else if char = '\u212a' then 'k'
  else char.toLower

/-- Two characters are forms of one letter, or the same character. -/
def SameLetter (first second : Char) : Prop :=
  smallForm first = smallForm second

instance (first second : Char) : Decidable (SameLetter first second) :=
  inferInstanceAs (Decidable (_ = _))

theorem SameLetter.refl (char : Char) : SameLetter char char := rfl

/-- The characters that are not their own small form. -/
def otherForms : List Char :=
  "ABCDEFGHIJKLMNOPQRSTUVWXYZ\u017f\u212a".toList

theorem mem_otherForms_of_isUpper {char : Char} (upper : char.isUpper = true) :
    char ∈ otherForms := by
  have capitals : ∀ index < 26, Char.ofNat (65 + index) ∈ otherForms := by decide
  have bounds : 65 ≤ char.toNat ∧ char.toNat ≤ 90 := by
    delta Char.isUpper at upper
    simpa [UInt32.le_iff_toNat_le] using upper
  have found := capitals (char.toNat - 65) (by omega)
  rwa [Nat.add_sub_of_le bounds.1, Char.ofNat_toNat] at found

theorem smallForm_eq_self {char : Char} (small : char ∉ otherForms) :
    smallForm char = char := by
  have notLong : char ≠ '\u017f' := fun same => small (same ▸ by decide)
  have notKelvin : char ≠ '\u212a' := fun same => small (same ▸ by decide)
  have notUpper : ¬char.isUpper = true :=
    fun upper => small (mem_otherForms_of_isUpper upper)
  delta Char.isUpper at notUpper
  rw [smallForm, if_neg notLong, if_neg notKelvin]
  delta Char.toLower
  rw [dif_neg]
  simpa using notUpper

/-- What holds of the small characters, and of every other form if it holds of the small
one, is a matter of the letter alone. -/
theorem eq_of_sameLetter
    {test : Char → α}
    (small : ∀ char ∈ otherForms, test char = test (smallForm char))
    {first second : Char}
    (same : SameLetter first second) :
    test first = test second := by
  have toSmall : ∀ char, test char = test (smallForm char) := fun char => by
    by_cases other : char ∈ otherForms
    · exact small char other
    · rw [smallForm_eq_self other]
  rw [toSmall first, toSmall second, same]

/-- Texts have the same letters if they are the same in small letters. -/
theorem forall₂_sameLetter_iff {first second : List Char} :
    List.Forall₂ SameLetter first second ↔
      first.map smallForm = second.map smallForm := by
  rw [← List.forall₂_eq_eq_eq, List.forall₂_map_left_iff, List.forall₂_map_right_iff]
  exact Iff.rfl

theorem isWord_congr {first second : Char} (same : SameLetter first second) :
    isWord first = isWord second :=
  eq_of_sameLetter (by decide +kernel) same

theorem isBlank_congr {first second : Char} (same : SameLetter first second) :
    isBlank first = isBlank second :=
  eq_of_sameLetter (by decide +kernel) same

theorem isDigit_congr {first second : Char} (same : SameLetter first second) :
    isDigit first = isDigit second :=
  eq_of_sameLetter (by decide +kernel) same

/-- A character without other forms is the same letter as itself only. -/
theorem sameLetter_iff_eq
    {char other : Char}
    (alone : char ∉ otherForms.map smallForm)
    (small : char ∉ otherForms) :
    SameLetter char other ↔ char = other := by
  constructor
  · intro same
    by_cases isOther : other ∈ otherForms
    · rw [SameLetter, smallForm_eq_self small] at same
      exact absurd (same ▸ List.mem_map_of_mem isOther) alone
    · rwa [SameLetter, smallForm_eq_self small, smallForm_eq_self isOther] at same
  · rintro rfl
    exact .refl char

/-! ## Case variants -/

/-- The forms of a letter are each other's case variants. -/
theorem mem_forms_congr
    {first second : Char}
    (same : SameLetter first second)
    (member : Char) :
    member ∈ first :: caseVariants first ↔ member ∈ second :: caseVariants second := by
  have permuted : ∀ char ∈ otherForms,
      (char :: caseVariants char).Perm (smallForm char ::
        caseVariants (smallForm char)) := by
    decide +kernel
  let isForm (char : Char) : Prop := member ∈ char :: caseVariants char
  have ofSmall : ∀ char ∈ otherForms, isForm char = isForm (smallForm char) :=
    fun char other => propext (permuted char other).mem_iff
  exact iff_of_eq (eq_of_sameLetter ofSmall same)

/-- A tree that is made from a table finds only what the table says. -/
theorem RangeTree.exists_of_find?_ofSorted
    {depth key : Nat}
    {table : List (Nat × Nat × α)}
    {value : α}
    (found : (ofSorted depth table).find? key = some value) :
    ∃ low high, (low, high, value) ∈ table ∧ low ≤ key ∧ key ≤ high := by
  induction depth generalizing table with
  | zero => cases found
  | succ depth inductionHypothesis =>
      rw [ofSorted] at found
      split at found
      · cases found
      · rename_i low high here after cut
        rw [find?_node] at found
        split at found
        · obtain ⟨low, high, member, bounds⟩ := inductionHypothesis found
          exact ⟨low, high, List.mem_of_mem_take member, bounds⟩
        · split at found
          · obtain ⟨low, high, member, bounds⟩ := inductionHypothesis found
            have behind : (low, high, value) ∈ table.drop (table.length / 2) := by
              rw [cut]
              exact List.mem_cons_of_mem _ member
            exact ⟨low, high, List.mem_of_mem_drop behind, bounds⟩
          · cases found
            have behind : (low, high, value) ∈ table.drop (table.length / 2) := by
              rw [cut]
              exact List.mem_cons_self
            exact ⟨low, high, List.mem_of_mem_drop behind, by omega, by omega⟩

/-- Whether all codes between two bounds belong to characters beyond ASCII. -/
def areBeyondAscii (low high : Int) : Bool :=
  128 ≤ low && (high < 0xD800 || (0xE000 ≤ low && high < 0x110000))

theorem toNat_ofNat_of_areBeyondAscii
    {low high : Int}
    {code : Nat}
    (beyond : areBeyondAscii low high = true)
    (notBelow : low ≤ code)
    (notAbove : code ≤ high) :
    128 ≤ (Char.ofNat code).toNat := by
  simp only [areBeyondAscii, Bool.and_eq_true, Bool.or_eq_true, decide_eq_true_eq]
    at beyond
  have valid : code.isValidChar := by
    rw [Nat.isValidChar]
    omega
  have codes : (Char.ofNat code).toNat = code := by
    rw [Char.ofNat, dif_pos valid]
    rfl
  omega

/-- Whether the characters of a range have all their case variants beyond ASCII. -/
def CaseRange.staysBeyondAscii (low high : Nat) : CaseRange → Bool
  | .shifted offsets =>
      offsets.all fun offset => areBeyondAscii (low + offset) (high + offset)
  | .alternating => areBeyondAscii low (high + 1)

/-- The case variants of a character beyond ASCII lie beyond ASCII, unless it is a form
of an ASCII letter. -/
theorem beyondAscii_of_mem_caseVariants
    {char variant : Char}
    (beyond : 128 ≤ char.toNat)
    (notOther : char ∉ otherForms)
    (member : variant ∈ caseVariants char) :
    128 ≤ variant.toNat := by
  have listed : ∀ range ∈ caseRanges,
      range.2.2.staysBeyondAscii range.1 range.2.1 = true ∨
        (range.1 = range.2.1 ∧ Char.ofNat range.1 ∈ otherForms) := by
    decide +kernel
  rw [caseVariants, if_neg (Nat.not_lt.mpr beyond)] at member
  cases found : caseTree.find? char.toNat with
  | none =>
      rw [found] at member
      cases member
  | some value =>
      obtain ⟨low, high, entry, notBelow, notAbove⟩ :=
        RangeTree.exists_of_find?_ofSorted found
      obtain ⟨⟨first, last, kind⟩, isRange, same⟩ := List.mem_map.mp entry
      cases same
      have checked := listed _ isRange
      dsimp only at checked
      rcases checked with stays | ⟨single, isOther⟩
      · rw [found] at member
        cases kind with
        | shifted offsets =>
            obtain ⟨offset, isOffset, rfl⟩ := List.mem_map.mp member
            have shifted := List.all_eq_true.mp stays offset isOffset
            have positive : 128 ≤ (low : Int) + offset := by
              simp only [areBeyondAscii, Bool.and_eq_true, decide_eq_true_eq] at shifted
              exact shifted.1
            exact toNat_ofNat_of_areBeyondAscii shifted (by omega) (by omega)
        | alternating =>
            dsimp only at member
            split at member
            · obtain rfl := List.mem_singleton.mp member
              exact toNat_ofNat_of_areBeyondAscii stays (by omega) (by omega)
            · obtain rfl := List.mem_singleton.mp member
              exact toNat_ofNat_of_areBeyondAscii stays (by omega) (by omega)
      · have codes : low = char.toNat := by omega
        rw [codes, Char.ofNat_toNat] at isOther
        exact absurd isOther notOther

/-- The case variants of a character that belong to ASCII are forms of the same letter.
-/
theorem sameLetter_of_mem_caseVariants
    {char variant : Char}
    (member : variant ∈ caseVariants char)
    (ascii : variant.toNat < 128) :
    SameLetter variant char := by
  by_cases isOther : char ∈ otherForms
  · have ofOther : ∀ char ∈ otherForms, ∀ variant ∈ caseVariants char,
        SameLetter variant char := by decide +kernel
    exact ofOther char isOther variant member
  · by_cases plain : char.toNat < 128
    · have ofAscii : ∀ code < 128, ∀ variant ∈ asciiVariants (Char.ofNat code),
          SameLetter variant (Char.ofNat code) := by decide +kernel
      have found := ofAscii char.toNat plain variant
      rw [Char.ofNat_toNat] at found
      exact found (by simpa [caseVariants, plain] using member)
    · have beyond := beyondAscii_of_mem_caseVariants (Nat.not_lt.mp plain) isOther member
      omega

/-- The forms of an ASCII character are the character and its case variants. -/
theorem mem_forms_iff
    {char other : Char}
    (ascii : char.toNat < 128) :
    char ∈ other :: caseVariants other ↔ SameLetter char other := by
  constructor
  · intro member
    rcases List.mem_cons.mp member with rfl | variant
    · exact .refl char
    · exact sameLetter_of_mem_caseVariants variant ascii
  · intro same
    exact (mem_forms_congr same char).mp List.mem_cons_self

end Text
end ScriptAudit
