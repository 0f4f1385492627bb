import ScriptAudit.Proofs.Text.Utf8

/-!
# Octets that can be read

The octets that can be read without replacing any are exactly the octets of a text.
While the decoder reads, those behind the last character that is complete are the first
octets of every character that they can still become.
-/

namespace ScriptAudit
namespace Text

theorem encode_concat (chars : List Char) (last : Char) :
    encode (chars ++ [last]) = encode chars ++ String.utf8EncodeChar last := by
  simp [encode]

/-! ## The octets of a character -/

theorem val_ofNat {code : Nat} (valid : code.isValidChar) :
    (Char.ofNat code).val.toNat = code := by
  rw [Char.ofNat, dif_pos valid]
  exact UInt32.toNat_ofNatLT ..

theorem ofNat_of_toNat_eq
    {octet : UInt8}
    {code : Nat}
    (same : octet.toNat = code) :
    UInt8.ofNat code = octet := by
  rw [← same, UInt8.ofNat_toNat]

theorem utf8EncodeChar_one
    {first : UInt8}
    (ascii : first.toNat < 0x80) :
    String.utf8EncodeChar (Char.ofNat first.toNat) = [first] := by
  have value : (Char.ofNat first.toNat).val.toNat = first.toNat :=
    val_ofNat (.inl (by omega))
  simp only [String.utf8EncodeChar, value]
  rw [if_pos (by omega), UInt8.ofNat_toNat]

theorem utf8EncodeChar_two
    {first second : UInt8}
    {code : Nat}
    (low : 0x80 ≤ code)
    (high : code < 0x800)
    (isFirst : first.toNat = code / 64 % 0x20 + 0xC0)
    (isSecond : second.toNat = code % 64 + 0x80) :
    String.utf8EncodeChar (Char.ofNat code) = [first, second] := by
  have value : (Char.ofNat code).val.toNat = code := val_ofNat (.inl (by omega))
  simp only [String.utf8EncodeChar, value]
  rw [if_neg (by omega), if_pos (by omega), ofNat_of_toNat_eq isFirst,
    ofNat_of_toNat_eq isSecond]

theorem utf8EncodeChar_three
    {first second third : UInt8}
    {code : Nat}
    (low : 0x800 ≤ code)
    (high : code < 0x10000)
    (noSurrogate : code < 0xD800 ∨ 0xDFFF < code)
    (isFirst : first.toNat = code / 4096 % 0x10 + 0xE0)
    (isSecond : second.toNat = code / 64 % 64 + 0x80)
    (isThird : third.toNat = code % 64 + 0x80) :
    String.utf8EncodeChar (Char.ofNat code) = [first, second, third] := by
  have value : (Char.ofNat code).val.toNat = code :=
    val_ofNat (noSurrogate.imp_right fun above => ⟨above, by omega⟩)
  simp only [String.utf8EncodeChar, value]
  rw [if_neg (by omega), if_neg (by omega), if_pos (by omega), ofNat_of_toNat_eq isFirst,
    ofNat_of_toNat_eq isSecond, ofNat_of_toNat_eq isThird]

theorem utf8EncodeChar_four
    {first second third fourth : UInt8}
    {code : Nat}
    (low : 0x10000 ≤ code)
    (high : code < 0x110000)
    (isFirst : first.toNat = code / 262144 % 0x08 + 0xF0)
    (isSecond : second.toNat = code / 4096 % 64 + 0x80)
    (isThird : third.toNat = code / 64 % 64 + 0x80)
    (isFourth : fourth.toNat = code % 64 + 0x80) :
    String.utf8EncodeChar (Char.ofNat code) = [first, second, third, fourth] := by
  have value : (Char.ofNat code).val.toNat = code := val_ofNat (.inr ⟨by omega, high⟩)
  simp only [String.utf8EncodeChar, value]
  rw [if_neg (by omega), if_neg (by omega), if_neg (by omega), ofNat_of_toNat_eq isFirst,
    ofNat_of_toNat_eq isSecond, ofNat_of_toNat_eq isThird, ofNat_of_toNat_eq isFourth]

/-! ## Characters that are being read -/

/-- With any octets in the ranges that are waited for, the octets read so far are those
of the character that is then complete. -/
def Begins : (later low high bits : Nat) → Octets → Prop
  | 0, low, high, bits, part => ∀ octet : UInt8, low ≤ octet.toNat → octet.toNat ≤ high →
      String.utf8EncodeChar (Char.ofNat (bits * 64 + (octet.toNat - 0x80))) =
        part ++ [octet]
  | later + 1, low, high, bits, part => ∀ octet : UInt8, low ≤ octet.toNat →
      octet.toNat ≤ high →
      Begins later 0x80 0xBF (bits * 64 + (octet.toNat - 0x80)) (part ++ [octet])

section Beginnings

variable {first : UInt8} {low high bits : Nat}

theorem begins_two
    (isFirst : bits + 0xC0 = first.toNat)
    (above : 0xC2 ≤ first.toNat)
    (below : first.toNat ≤ 0xDF) :
    Begins 0 0x80 0xBF bits [first] := by
  intro second _ _
  exact utf8EncodeChar_two (by omega) (by omega) (by omega) (by omega)

/-- The second octet keeps a character of three octets from being one of two, or a
surrogate. -/
theorem begins_three
    (isFirst : bits + 0xE0 = first.toNat)
    (below : first.toNat ≤ 0xEF)
    (range : 0x80 ≤ low ∧ high ≤ 0xBF)
    (noTwo : first.toNat = 0xE0 → 0xA0 ≤ low)
    (noSurrogate : first.toNat = 0xED → high ≤ 0x9F) :
    Begins 1 low high bits [first] := by
  intro second _ _ third _ _
  exact utf8EncodeChar_three (by omega) (by omega) (by omega) (by omega)
    (by omega) (by omega)

/-- The second octet keeps a character of four octets from being one of three, or beyond
all characters. -/
theorem begins_four
    (isFirst : bits + 0xF0 = first.toNat)
    (below : first.toNat ≤ 0xF4)
    (range : 0x80 ≤ low ∧ high ≤ 0xBF)
    (noThree : first.toNat = 0xF0 → 0x90 ≤ low)
    (isChar : first.toNat = 0xF4 → high ≤ 0x8F) :
    Begins 2 low high bits [first] := by
  intro second _ _ third _ _ fourth _ _
  exact utf8EncodeChar_four (by omega) (by omega) (by omega) (by omega)
    (by omega) (by omega)

end Beginnings

namespace Decoder

/-- The first octet of a character announces what its other octets complete. -/
theorem begins_of_announced?
    {first : UInt8}
    {owed : Owed}
    (announced : announced? first.toNat = some owed) :
    Begins owed.later owed.low owed.high owed.bits [first] := by
  unfold announced? at announced
  simp only [Bool.and_eq_true, decide_eq_true_eq] at announced
  split_ifs at announced <;> obtain rfl := Option.some.inj announced <;> dsimp only
  · exact begins_two (by omega) (by omega) (by omega)
  · exact begins_three (by omega) (by omega) (by omega) (by omega) (by omega)
  · exact begins_three (by omega) (by omega) (by omega) (by omega) (by omega)
  · exact begins_three (by omega) (by omega) (by omega) (by omega) (by omega)
  · exact begins_four (by omega) (by omega) (by omega) (by omega) (by omega)
  · exact begins_four (by omega) (by omega) (by omega) (by omega) (by omega)
  · exact begins_four (by omega) (by omega) (by omega) (by omega) (by omega)

/-! ## The decoder -/

/-- Unless an octet was replaced, the octets read are those of the characters read and
then those of the one that is being read. -/
def HasRead (octets : Octets) (decoder : Decoder) : Prop :=
  decoder.clean = true → ∃ part, octets = encode decoder.output.reverse ++ part ∧
    match decoder.owed with
    | none => part = []
    | some owed => Begins owed.later owed.low owed.high owed.bits part

theorem HasRead.emit
    {octets part : Octets}
    {decoder : Decoder}
    {char : Char}
    (clean : decoder.clean = true → octets = encode decoder.output.reverse ++ part)
    {octet : UInt8}
    (completes : String.utf8EncodeChar char = part ++ [octet]) :
    (decoder.emit char).HasRead (octets ++ [octet]) := by
  intro isClean
  refine ⟨[], ?_, rfl⟩
  rw [clean isClean, output_emit, List.reverse_cons, encode_concat,
    completes, List.append_nil, List.append_assoc]

theorem hasRead_start
    {octets : Octets}
    {decoder : Decoder}
    (idle : decoder.owed = none)
    (hasRead : decoder.HasRead octets)
    (octet : UInt8) :
    (decoder.start octet.toNat).HasRead (octets ++ [octet]) := by
  have read : decoder.clean = true → octets = encode decoder.output.reverse ++ [] := by
    intro clean
    obtain ⟨part, split, nothing⟩ := hasRead clean
    rw [idle] at nothing
    rw [split, nothing]
  by_cases ascii : octet.toNat < 0x80
  · rw [start_ascii decoder ascii]
    exact HasRead.emit read (utf8EncodeChar_one ascii)
  · rw [start, if_neg ascii]
    split
    · rename_i owed announced
      intro clean
      exact ⟨[octet], by rw [read clean, List.append_nil], begins_of_announced? announced⟩
    · intro clean
      cases clean

theorem not_clean_start
    {decoder : Decoder}
    (unclean : decoder.clean = false)
    (octet : Nat) :
    (decoder.start octet).clean = false := by
  unfold start
  split
  · exact unclean
  · split
    · exact unclean
    · rfl

theorem hasRead_step
    {octets : Octets}
    {decoder : Decoder}
    (hasRead : decoder.HasRead octets)
    (octet : UInt8) :
    (decoder.step octet).HasRead (octets ++ [octet]) := by
  rcases decoder.step_cases octet with ⟨idle, stepped⟩ | ⟨owed, waits, ⟨_, stepped⟩ |
    ⟨inRange, ⟨complete, stepped⟩ | ⟨later, missing, stepped⟩⟩⟩
  · rw [stepped]
    exact hasRead_start idle hasRead octet
  · intro clean
    rw [stepped, not_clean_start rfl] at clean
    cases clean
  · intro clean
    rw [stepped] at clean ⊢
    obtain ⟨part, split, begins⟩ := hasRead clean
    rw [waits] at begins
    simp only [complete] at begins
    exact HasRead.emit (fun _ => split) (begins octet inRange.1 inRange.2) clean
  · intro clean
    rw [stepped] at clean ⊢
    obtain ⟨part, split, begins⟩ := hasRead clean
    rw [waits] at begins
    simp only [missing] at begins
    exact ⟨part ++ [octet], by rw [split, List.append_assoc],
      begins octet inRange.1 inRange.2⟩

theorem hasRead_foldl
    {before : Octets}
    {decoder : Decoder}
    (hasRead : decoder.HasRead before)
    (octets : Octets) :
    (octets.foldl step decoder).HasRead (before ++ octets) := by
  induction octets generalizing before decoder with
  | nil => simpa using hasRead
  | cons octet octets inductionHypothesis =>
      rw [List.append_cons]
      exact inductionHypothesis (hasRead_step hasRead octet)

/-- Nothing is replaced in the octets of a text. -/
theorem clean_foldl_encode
    {decoder : Decoder}
    (idle : decoder.owed = none)
    (chars : List Char) :
    ((encode chars).foldl step decoder).clean = decoder.clean := by
  induction chars generalizing decoder with
  | nil => rfl
  | cons char chars inductionHypothesis =>
      rw [encode, List.flatMap_cons, List.foldl_append, foldl_utf8EncodeChar idle]
      exact inductionHypothesis (owed_emit decoder char)

end Decoder

/-- Octets can be read exactly if they are those of a text. -/
theorem decode?_eq_some_iff
    {octets : Octets}
    {chars : List Char} :
    decode? octets = some chars ↔ octets = encode chars := by
  constructor
  · intro decoded
    have hasRead : (octets.foldl Decoder.step {}).HasRead ([] ++ octets) :=
      Decoder.hasRead_foldl (fun _ => ⟨[], rfl, rfl⟩) octets
    simp only [decode?, Decoder.run, Decoder.finish] at decoded
    cases waits : (octets.foldl Decoder.step {}).owed with
    | some owed => simp [waits, Decoder.refuse] at decoded
    | none =>
        simp only [waits, Option.isSome_none, Bool.false_eq_true, if_false,
          Option.ite_none_right_eq_some, Option.some.injEq] at decoded
        obtain ⟨clean, rfl⟩ := decoded
        obtain ⟨part, split, nothing⟩ := hasRead clean
        rw [waits] at nothing
        simpa [nothing] using split
  · rintro rfl
    obtain ⟨idle, read⟩ := Decoder.foldl_encode (rfl : ({} : Decoder).owed = none) chars
    have clean : ((encode chars).foldl Decoder.step {}).clean = true :=
      Decoder.clean_foldl_encode rfl chars
    simp [decode?, Decoder.run, Decoder.finish, idle, clean, read]

/-- Octets cannot be read exactly if they are those of no text. -/
theorem decode?_eq_none_iff {octets : Octets} :
    decode? octets = none ↔ ¬∃ chars, octets = encode chars := by
  rw [Option.eq_none_iff_forall_ne_some, not_exists]
  simp only [ne_eq, decode?_eq_some_iff]

end Text
end ScriptAudit
