import ScriptAudit.Proofs.Text.Letters
import ScriptAudit.Text.Lowercase

/-!
# Lower-case forms in ASCII

Beyond ASCII only the Kelvin sign has a lower-case form that belongs to ASCII
altogether. A text whose lower-case form is an ASCII word without a k therefore consists
of ASCII letters, in whatever letter case.
-/

namespace ScriptAudit
namespace Text

/-- Whether the lower-case forms of a range of capital letters lie beyond ASCII. -/
def LowerRange.staysBeyondAscii (low high : Nat) (range : LowerRange) : Bool :=
  areBeyondAscii (low + range.offset) (high + range.offset)

theorem lowerForm_of_ascii
    {char : Char}
    (ascii : char.toNat < 128) :
    lowerForm char = [char.toLower] :=
  if_pos ascii

/-- The lower-case form of a character beyond ASCII does not belong to ASCII, unless the
character is the Kelvin sign. -/
theorem exists_beyondAscii_mem_lowerForm
    {char : Char}
    (beyond : 128 ≤ char.toNat)
    (notKelvin : char ≠ '\u212a') :
    ∃ form ∈ lowerForm char, 128 ≤ form.toNat := by
  have listed : ∀ range ∈ lowerRanges,
      range.2.2.staysBeyondAscii range.1 range.2.1 = true ∨
        (range.1 = range.2.1 ∧ Char.ofNat range.1 = '\u212a') := by
    decide +kernel
  rw [lowerForm, if_neg (Nat.not_lt.mpr beyond)]
  by_cases dotted : char = '\u0130'
  · rw [if_pos dotted]
    exact ⟨'\u0307', by decide, by decide⟩
  rw [if_neg dotted]
  cases found : lowerTree.find? char.toNat with
  | none => exact ⟨char, List.mem_singleton_self char, beyond⟩
  | some value =>
      obtain ⟨low, high, entry, notBelow, notAbove⟩ :=
        RangeTree.exists_of_find?_ofSorted found
      obtain ⟨⟨first, last, range⟩, isRange, same⟩ := List.mem_map.mp entry
      cases same
      dsimp only
      split
      · refine ⟨_, List.mem_singleton_self _, ?_⟩
        have checked := listed _ isRange
        dsimp only at checked
        rcases checked with stays | ⟨single, isKelvin⟩
        · have positive : 128 ≤ (low : Int) + range.offset := by
            simp only [LowerRange.staysBeyondAscii, areBeyondAscii, Bool.and_eq_true,
              decide_eq_true_eq] at stays
            exact stays.1
          exact toNat_ofNat_of_areBeyondAscii stays (by omega) (by omega)
        · have codes : low = char.toNat := by omega
          rw [codes, Char.ofNat_toNat] at isKelvin
          exact absurd isKelvin notKelvin
      · exact ⟨char, List.mem_singleton_self char, beyond⟩

theorem toLower_eq_self_of_beyondAscii
    {char : Char}
    (beyond : 128 ≤ char.toNat) :
    char.toLower = char := by
  have notUpper : ¬(char.val ≥ 'A'.val ∧ char.val ≤ 'Z'.val) := by
    rintro ⟨-, notAbove⟩
    have bound : char.toNat ≤ 90 := UInt32.le_iff_toNat_le.mp notAbove
    omega
  delta Char.toLower
  exact dif_neg notUpper

/-- A text in which a character beyond ASCII stands has a lower-case form with a
character beyond ASCII or with a k. -/
theorem exists_foreign_mem_lowercaseBehind
    {char : Char}
    (beyond : 128 ≤ char.toNat)
    (before chars : List Char) :
    ∃ form ∈ lowercaseBehind before (char :: chars), 128 ≤ form.toNat ∨ form = 'k' := by
  obtain ⟨form, isForm, foreign⟩ : ∃ form ∈ lowerForm char,
      128 ≤ form.toNat ∨ form = 'k' := by
    by_cases kelvin : char = '\u212a'
    · have isK : lowerForm '\u212a' = ['k'] := by decide +kernel
      exact ⟨'k', by rw [kelvin, isK]; exact List.mem_singleton_self 'k', .inr rfl⟩
    · obtain ⟨form, isForm, beyond⟩ := exists_beyondAscii_mem_lowerForm beyond kelvin
      exact ⟨form, isForm, .inl beyond⟩
  rw [lowercaseBehind]
  split
  · exact ⟨'ς', List.mem_append_left _ (List.mem_singleton_self 'ς'), .inl (by decide)⟩
  · exact ⟨form, List.mem_append_left _ isForm, foreign⟩

theorem lowercaseBehind_eq_iff
    {word : List Char}
    (plain : ∀ char ∈ word, char.toNat < 128 ∧ char ≠ 'k')
    (before chars : List Char) :
    lowercaseBehind before chars = word ↔ chars.map Char.toLower = word := by
  induction chars generalizing before word with
  | nil => rfl
  | cons char chars inductionHypothesis =>
      by_cases ascii : char.toNat < 128
      · have notSigma : char ≠ 'Σ' := by
          rintro rfl
          exact absurd ascii (by decide)
        cases word with
        | nil => simp [lowercaseBehind, notSigma, lowerForm_of_ascii ascii]
        | cons first rest =>
            have later := inductionHypothesis
              (fun other member => plain other (List.mem_cons_of_mem first member))
                (char :: before)
            simp [lowercaseBehind, notSigma, lowerForm_of_ascii ascii, later]
      · have beyond : 128 ≤ char.toNat := Nat.not_lt.mp ascii
        refine iff_of_false (fun same => ?_) fun same => ?_
        · obtain ⟨form, isForm, foreign⟩ :=
            exists_foreign_mem_lowercaseBehind beyond before chars
          obtain ⟨formAscii, notK⟩ := plain form (same ▸ isForm)
          rcases foreign with formBeyond | isK
          · exact absurd formAscii (Nat.not_lt.mpr formBeyond)
          · exact notK isK
        · rw [List.map_cons, toLower_eq_self_of_beyondAscii beyond] at same
          exact ascii (plain char (same ▸ List.mem_cons_self)).1

/-- The lower-case form of a text is an ASCII word without a k exactly if the text is
that word in any letter case. -/
theorem lowercase_eq_iff
    {word : List Char}
    (plain : ∀ char ∈ word, char.toNat < 128 ∧ char ≠ 'k')
    (chars : List Char) :
    lowercase chars = word ↔ chars.map Char.toLower = word :=
  lowercaseBehind_eq_iff plain [] chars

end Text
end ScriptAudit
