import Mathlib.Algebra.Group.Nat.Defs
import Mathlib.Tactic.SplitIfs
import ScriptAudit.Proofs.Text.Pieces
import ScriptAudit.Text.Utf8

/-!
# Octets, characters and lines

A line feed is an octet of its own: the decoder never waits for it and never makes one
from other octets. Decoding a text therefore is decoding its lines one by one, whatever
octets cannot be read, and a line that is well formed is decoded to the characters it
was made of.
-/

namespace ScriptAudit
namespace Text

/-- The octet of a line feed. -/
def lineFeed : UInt8 := 0x0A

/-- The least code that the missing octets can still complete. -/
def Owed.least (owed : Owed) : Nat :=
  (owed.bits * 64 + (owed.low - 0x80)) * 64 ^ owed.later

/-- An octet of ASCII neither continues the character nor is what it can become. -/
structure Owed.IsBeyondAscii (owed : Owed) : Prop where
  low : 0x80 ≤ owed.low
  least : 0x80 ≤ owed.least

/-- A character that is continued can become no less than before. -/
theorem Owed.IsBeyondAscii.continued
    {owed : Owed}
    {later code : Nat}
    (beyond : owed.IsBeyondAscii)
    (missing : owed.later = later + 1)
    (enough : owed.low ≤ code) :
    Owed.IsBeyondAscii ⟨later, 0x80, 0xBF, owed.bits * 64 + (code - 0x80)⟩ := by
  refine ⟨Nat.le_refl _, Nat.le_trans beyond.least ?_⟩
  have grows : owed.bits * 64 + (owed.low - 0x80) ≤ owed.bits * 64 + (code - 0x80) :=
    Nat.add_le_add_left (Nat.sub_le_sub_right enough _) _
  calc owed.least
    _ = (owed.bits * 64 + (owed.low - 0x80)) * 64 ^ (later + 1) := by
      rw [Owed.least, missing]
    _ ≤ (owed.bits * 64 + (code - 0x80)) * 64 ^ (later + 1) :=
      Nat.mul_le_mul_right _ grows
    _ = Owed.least ⟨later, 0x80, 0xBF, owed.bits * 64 + (code - 0x80)⟩ := by
      rw [Owed.least, Nat.pow_succ', Nat.sub_self, Nat.add_zero, Nat.mul_assoc]

namespace Decoder

/-- What is being read, if anything, lies beyond ASCII. -/
def IsBeyondAscii (decoder : Decoder) : Prop :=
  ∀ owed ∈ decoder.owed, owed.IsBeyondAscii

@[simp] theorem owed_emit (decoder : Decoder) (char : Char) :
    (decoder.emit char).owed = none := rfl

@[simp] theorem owed_refuse (decoder : Decoder) :
    decoder.refuse.owed = none := rfl

@[simp] theorem output_emit (decoder : Decoder) (char : Char) :
    (decoder.emit char).output = char :: decoder.output := rfl

theorem start_ascii
    (decoder : Decoder)
    {octet : Nat}
    (ascii : octet < 0x80) :
    decoder.start octet = decoder.emit (Char.ofNat octet) :=
  if_pos ascii

/-- What reading one octet can do: start a character, give up the one that is being read
and start another, complete it, or continue it. -/
theorem step_cases (decoder : Decoder) (octet : UInt8) :
    decoder.owed = none ∧ decoder.step octet = decoder.start octet.toNat ∨
      ∃ owed, decoder.owed = some owed ∧
        (¬(owed.low ≤ octet.toNat ∧ octet.toNat ≤ owed.high) ∧
            decoder.step octet = decoder.refuse.start octet.toNat ∨
          (owed.low ≤ octet.toNat ∧ octet.toNat ≤ owed.high) ∧
            (owed.later = 0 ∧ decoder.step octet =
                decoder.emit (Char.ofNat (owed.bits * 64 + (octet.toNat - 0x80))) ∨
              ∃ later, owed.later = later + 1 ∧ decoder.step octet =
                { decoder with
                  owed :=
                    some ⟨later, 0x80, 0xBF, owed.bits * 64 +
                      (octet.toNat - 0x80)⟩ })) := by
  cases waits : decoder.owed with
  | none => exact .inl ⟨rfl, by simp only [step, waits]⟩
  | some owed =>
      refine .inr ⟨owed, rfl, ?_⟩
      by_cases inRange : owed.low ≤ octet.toNat ∧ octet.toNat ≤ owed.high
      · refine .inr ⟨inRange, ?_⟩
        cases missing : owed.later with
        | zero => exact .inl ⟨rfl, by simp [step, waits, inRange, missing]⟩
        | succ later => exact .inr ⟨later, rfl, by simp [step, waits, inRange, missing]⟩
      · exact .inl ⟨inRange, by simp [step, waits, inRange]⟩

/-! ## What the decoder waits for -/

/-- The first octet of a character announces one beyond ASCII. -/
theorem isBeyondAscii_of_announced?
    {octet : Nat}
    {owed : Owed}
    (announced : announced? octet = some owed) :
    owed.IsBeyondAscii := by
  unfold announced? at announced
  split_ifs at announced <;>
    obtain rfl := Option.some.inj announced <;>
    constructor <;>
    simp_all [Owed.least] <;>
    omega

theorem isBeyondAscii_start (decoder : Decoder) (octet : Nat) :
    (decoder.start octet).IsBeyondAscii := by
  unfold start
  split
  · simp [IsBeyondAscii]
  · split
    next owed announced =>
      simpa [IsBeyondAscii] using isBeyondAscii_of_announced? announced
    next => simp [IsBeyondAscii]

theorem isBeyondAscii_step
    {decoder : Decoder}
    (beyond : decoder.IsBeyondAscii)
    (octet : UInt8) :
    (decoder.step octet).IsBeyondAscii := by
  rcases decoder.step_cases octet with ⟨_, stepped⟩ | ⟨owed, waits, ⟨_, stepped⟩ |
    ⟨inRange, ⟨_, stepped⟩ | ⟨later, missing, stepped⟩⟩⟩
  · exact stepped ▸ isBeyondAscii_start decoder octet.toNat
  · exact stepped ▸ isBeyondAscii_start decoder.refuse octet.toNat
  · simp [IsBeyondAscii, stepped]
  · simpa [IsBeyondAscii, stepped] using (beyond owed waits).continued missing inRange.1

theorem isBeyondAscii_foldl
    {decoder : Decoder}
    (beyond : decoder.IsBeyondAscii)
    (octets : Octets) :
    (octets.foldl step decoder).IsBeyondAscii := by
  induction octets generalizing decoder with
  | nil => exact beyond
  | cons octet octets inductionHypothesis =>
      exact inductionHypothesis (isBeyondAscii_step beyond octet)

/-- An octet of ASCII ends what is being read and stands for itself. -/
theorem step_ascii
    {decoder : Decoder}
    (beyond : decoder.IsBeyondAscii)
    {octet : UInt8}
    (ascii : octet.toNat < 0x80) :
    decoder.step octet = decoder.finish.emit (Char.ofNat octet.toNat) := by
  rcases decoder.step_cases octet with ⟨idle, stepped⟩ | ⟨owed, waits, ⟨_, stepped⟩ |
    ⟨inRange, _⟩⟩
  · rw [stepped, start_ascii decoder ascii, finish, idle]
    rfl
  · rw [stepped, start_ascii decoder.refuse ascii, finish, waits]
    rfl
  · have above := (beyond owed waits).low
    omega

/-! ## Reading on after earlier text -/

/-- The decoder with the text that another one has read in front of its own. -/
def after (decoder earlier : Decoder) : Decoder where
  owed := decoder.owed
  output := decoder.output ++ earlier.output
  clean := decoder.clean && earlier.clean

theorem start_after (decoder earlier : Decoder) (octet : Nat) :
    (decoder.after earlier).start octet = (decoder.start octet).after earlier := by
  unfold start
  split_ifs
  · rfl
  · split <;> rfl

theorem step_after (decoder earlier : Decoder) (octet : UInt8) :
    (decoder.after earlier).step octet = (decoder.step octet).after earlier := by
  unfold step
  cases waits : decoder.owed with
  | none => simpa [after, waits] using start_after decoder earlier octet.toNat
  | some owed =>
      simp only [after, waits]
      split_ifs
      · split <;> rfl
      · exact start_after decoder.refuse earlier octet.toNat

theorem foldl_after (decoder earlier : Decoder) (octets : Octets) :
    octets.foldl step (decoder.after earlier) =
      (octets.foldl step decoder).after earlier := by
  induction octets generalizing decoder with
  | nil => rfl
  | cons octet octets inductionHypothesis =>
      rw [List.foldl_cons, step_after, inductionHypothesis, List.foldl_cons]

theorem finish_after (decoder earlier : Decoder) :
    (decoder.after earlier).finish = decoder.finish.after earlier := by
  cases waits : decoder.owed <;> simp [finish, after, waits, refuse]

theorem after_of_idle
    {earlier : Decoder}
    (idle : earlier.owed = none) :
    earlier = ({} : Decoder).after earlier := by
  cases earlier
  simp_all [after]

/-- The octets on both sides of a line feed are read on their own. -/
theorem run_append_lineFeed (before behind : Octets) :
    run (before ++ lineFeed :: behind) = (run behind).after ((run before).emit '\n') := by
  have beyond : (before.foldl step {}).IsBeyondAscii :=
    isBeyondAscii_foldl (by simp [IsBeyondAscii]) before
  have newline : (before.foldl step {}).step lineFeed = (run before).emit '\n' :=
    step_ascii beyond (by decide)
  unfold run at newline ⊢
  rw [List.foldl_append, List.foldl_cons, newline,
    after_of_idle (owed_emit _ '\n'), foldl_after, finish_after,
    ← after_of_idle (owed_emit _ '\n')]

/-! ## Where line feeds come from -/

theorem eq_of_ofNat_eq_newline
    {code : Nat}
    (isNewline : Char.ofNat code = '\n') :
    code = 0x0A := by
  by_cases valid : code.isValidChar
  · have codes : (Char.ofNat code).toNat = code := by
      rw [Char.ofNat, dif_pos valid]
      rfl
    rw [← codes, isNewline]
    rfl
  · rw [Char.ofNat, dif_neg valid] at isNewline
    exact absurd isNewline (by decide)

theorem newline_mem_refuse
    {decoder : Decoder}
    (read : '\n' ∈ decoder.refuse.output) :
    '\n' ∈ decoder.output :=
  (List.mem_cons.mp read).resolve_left (by decide)

theorem newline_mem_start
    {decoder : Decoder}
    {octet : UInt8}
    (read : '\n' ∈ (decoder.start octet.toNat).output) :
    '\n' ∈ decoder.output ∨ octet = lineFeed := by
  unfold start at read
  split_ifs at read with ascii
  · rcases List.mem_cons.mp read with isNewline | earlier
    · exact .inr (UInt8.toNat_inj.mp (eq_of_ofNat_eq_newline isNewline.symm))
    · exact .inl earlier
  · split at read
    next => exact .inl read
    next => exact .inl (newline_mem_refuse read)

theorem newline_mem_step
    {decoder : Decoder}
    (beyond : decoder.IsBeyondAscii)
    {octet : UInt8}
    (read : '\n' ∈ (decoder.step octet).output) :
    '\n' ∈ decoder.output ∨ octet = lineFeed := by
  rcases decoder.step_cases octet with ⟨_, stepped⟩ | ⟨owed, waits, ⟨_, stepped⟩ |
    ⟨inRange, ⟨complete, stepped⟩ | ⟨later, missing, stepped⟩⟩⟩ <;> rw [stepped] at read
  · exact newline_mem_start read
  · exact (newline_mem_start read).imp_left newline_mem_refuse
  · rcases List.mem_cons.mp read with isNewline | earlier
    · have code := eq_of_ofNat_eq_newline isNewline.symm
      have least := (beyond owed waits).least
      rw [Owed.least, complete] at least
      omega
    · exact .inl earlier
  · exact .inl read

theorem newline_mem_foldl
    {decoder : Decoder}
    (beyond : decoder.IsBeyondAscii)
    {octets : Octets}
    (read : '\n' ∈ (octets.foldl step decoder).output) :
    '\n' ∈ decoder.output ∨ lineFeed ∈ octets := by
  induction octets generalizing decoder with
  | nil => exact .inl read
  | cons octet octets inductionHypothesis =>
      rcases inductionHypothesis (isBeyondAscii_step beyond octet) read with first | later
      · rcases newline_mem_step beyond first with earlier | isLineFeed
        · exact .inl earlier
        · exact .inr (isLineFeed ▸ List.mem_cons_self)
      · exact .inr (List.mem_cons_of_mem octet later)

end Decoder

/-- Decoding goes on in the same way on both sides of a line feed. -/
theorem decodeLossy_append_lineFeed (before behind : Octets) :
    decodeLossy (before ++ lineFeed :: behind) =
      decodeLossy before ++ '\n' :: decodeLossy behind := by
  rw [decodeLossy, Decoder.run_append_lineFeed]
  simp [Decoder.after, decodeLossy]

/-- A line feed is read only where one stands. -/
theorem decodeLossy_isWhole
    {octets : Octets}
    (whole : ∀ octet ∈ octets, (octet == lineFeed) = false) :
    ∀ char ∈ decodeLossy octets, (char == '\n') = false := by
  intro char isRead
  refine beq_eq_false_iff_ne.mpr fun isNewline => ?_
  subst isNewline
  rw [decodeLossy, List.mem_reverse, Decoder.run, Decoder.finish] at isRead
  have beforeEnd : '\n' ∈ (octets.foldl Decoder.step {}).output := by
    split_ifs at isRead
    · exact Decoder.newline_mem_refuse isRead
    · exact isRead
  rcases Decoder.newline_mem_foldl (by simp [Decoder.IsBeyondAscii]) beforeEnd
    with fresh | mark
  · exact absurd fresh List.not_mem_nil
  · exact absurd (whole lineFeed mark) (by decide)

/-- The lines of a text are its pieces between line feeds, each decoded on its own. -/
theorem lines_decodeLossy (octets : Octets) :
    lines (decodeLossy octets) = (splitAt (· == lineFeed) octets).map decodeLossy := by
  induction octets using piecewise_induction (· == lineFeed) with
  | whole octets whole =>
      rw [lines, splitAt_of_forall_not (decodeLossy_isWhole whole),
        splitAt_of_forall_not whole, List.map_singleton]
  | cut piece mark rest whole marks inductionHypothesis =>
      obtain rfl : mark = lineFeed := by simpa using marks
      rw [lines] at inductionHypothesis
      rw [decodeLossy_append_lineFeed, lines,
        splitAt_piece_cons (decodeLossy_isWhole whole) (by decide),
        splitAt_piece_cons whole marks, List.map_cons, inductionHypothesis]

/-! ## Well-formed octets -/

namespace Decoder

/-- The first octet of a character announces the octets behind it, and lets the second
one through. -/
def Announces (octet : Nat) (later bits second : Nat) : Prop :=
  ∃ owed, announced? octet = some owed ∧ owed.later = later ∧ owed.bits = bits ∧
    owed.low ≤ second ∧ second ≤ owed.high

theorem announces_two
    {code : Nat}
    (low : 0x80 ≤ code)
    (high : code < 0x800) :
    Announces (code / 64 % 0x20 + 0xC0) 0 (code / 64) (code % 64 + 0x80) := by
  unfold Announces announced?
  simp only [Bool.and_eq_true, decide_eq_true_eq]
  split_ifs <;> simp <;> omega

theorem announces_three
    {code : Nat}
    (low : 0x800 ≤ code)
    (high : code < 0x10000)
    (noSurrogate : code < 0xD800 ∨ 0xDFFF < code) :
    Announces (code / 4096 % 0x10 + 0xE0) 1 (code / 4096) (code / 64 % 64 + 0x80) := by
  unfold Announces announced?
  simp only [Bool.and_eq_true, decide_eq_true_eq]
  split_ifs <;> simp <;> omega

theorem announces_four
    {code : Nat}
    (low : 0x10000 ≤ code)
    (high : code < 0x110000) :
    Announces (code / 262144 % 0x08 + 0xF0) 2 (code / 262144)
      (code / 4096 % 64 + 0x80) := by
  unfold Announces announced?
  simp only [Bool.and_eq_true, decide_eq_true_eq]
  split_ifs <;> simp <;> omega

theorem step_announced
    {decoder : Decoder}
    (idle : decoder.owed = none)
    {octet later bits second : Nat}
    (announces : Announces octet later bits second)
    (isOctet : octet < 256) :
    ∃ low high, low ≤ second ∧ second ≤ high ∧
      decoder.step (UInt8.ofNat octet) =
        { decoder with owed := some ⟨later, low, high, bits⟩ } := by
  obtain ⟨owed, announced, rfl, rfl, low, high⟩ := announces
  refine ⟨owed.low, owed.high, low, high, ?_⟩
  have notAscii : ¬octet < 0x80 := by
    intro ascii
    unfold announced? at announced
    simp only [Bool.and_eq_true, decide_eq_true_eq] at announced
    split_ifs at announced <;> omega
  simp [step, idle, start, Nat.mod_eq_of_lt isOctet, notAscii, announced]

theorem step_continued
    (decoder : Decoder)
    {later low high bits octet : Nat}
    (above : low ≤ octet)
    (below : octet ≤ high)
    (isOctet : octet < 256) :
    step { decoder with owed := some ⟨later + 1, low, high, bits⟩ } (UInt8.ofNat octet) =
      { decoder with owed := some ⟨later, 0x80, 0xBF, bits * 64 + (octet - 0x80)⟩ } := by
  simp [step, Nat.mod_eq_of_lt isOctet, above, below]

theorem step_completed
    (decoder : Decoder)
    {low high bits octet : Nat}
    (above : low ≤ octet)
    (below : octet ≤ high)
    (isOctet : octet < 256) :
    step { decoder with owed := some ⟨0, low, high, bits⟩ } (UInt8.ofNat octet) =
      decoder.emit (Char.ofNat (bits * 64 + (octet - 0x80))) := by
  simp [step, Nat.mod_eq_of_lt isOctet, above, below, emit]

theorem foldl_two_octets
    {decoder : Decoder}
    (idle : decoder.owed = none)
    {code : Nat}
    (low : 0x80 ≤ code)
    (high : code < 0x800) :
    [UInt8.ofNat (code / 64 % 0x20 + 0xC0),
      UInt8.ofNat (code % 64 + 0x80)].foldl step decoder =
      decoder.emit (Char.ofNat code) := by
  obtain ⟨least, most, above, below, first⟩ :=
    step_announced idle (announces_two low high) (by omega)
  rw [List.foldl_cons, first, List.foldl_cons,
    step_completed decoder above below (by omega), List.foldl_nil, show code / 64 * 64 +
      (code % 64 + 0x80 - 0x80) = code by omega]

theorem foldl_three_octets
    {decoder : Decoder}
    (idle : decoder.owed = none)
    {code : Nat}
    (low : 0x800 ≤ code)
    (high : code < 0x10000)
    (noSurrogate : code < 0xD800 ∨ 0xDFFF < code) :
    [UInt8.ofNat (code / 4096 % 0x10 + 0xE0), UInt8.ofNat (code / 64 % 64 + 0x80),
      UInt8.ofNat (code % 64 + 0x80)].foldl step decoder =
      decoder.emit (Char.ofNat code) := by
  obtain ⟨least, most, above, below, first⟩ :=
    step_announced idle (announces_three low high noSurrogate) (by omega)
  rw [List.foldl_cons, first, List.foldl_cons,
    step_continued decoder above below (by omega), List.foldl_cons,
    step_completed decoder (by omega) (by omega) (by omega), List.foldl_nil,
    show (code / 4096 * 64 + (code / 64 % 64 + 0x80 - 0x80)) * 64 +
      (code % 64 + 0x80 - 0x80) = code by omega]

theorem foldl_four_octets
    {decoder : Decoder}
    (idle : decoder.owed = none)
    {code : Nat}
    (low : 0x10000 ≤ code)
    (high : code < 0x110000) :
    [UInt8.ofNat (code / 262144 % 0x08 + 0xF0), UInt8.ofNat (code / 4096 % 64 + 0x80),
      UInt8.ofNat (code / 64 % 64 + 0x80),
      UInt8.ofNat (code % 64 + 0x80)].foldl step decoder =
      decoder.emit (Char.ofNat code) := by
  obtain ⟨least, most, above, below, first⟩ :=
    step_announced idle (announces_four low high) (by omega)
  rw [List.foldl_cons, first, List.foldl_cons,
    step_continued decoder above below (by omega), List.foldl_cons,
    step_continued decoder (by omega) (by omega) (by omega),
    List.foldl_cons, step_completed decoder (by omega) (by omega) (by omega),
    List.foldl_nil,
    show ((code / 262144 * 64 + (code / 4096 % 64 + 0x80 - 0x80)) * 64 +
      (code / 64 % 64 + 0x80 - 0x80)) * 64 + (code % 64 + 0x80 - 0x80) = code by omega]

/-- The octets of a character are read as this character. -/
theorem foldl_utf8EncodeChar
    {decoder : Decoder}
    (idle : decoder.owed = none)
    (char : Char) :
    (String.utf8EncodeChar char).foldl step decoder = decoder.emit char := by
  have valid : char.val.toNat < 0xD800 ∨ 0xDFFF < char.val.toNat ∧
      char.val.toNat < 0x110000 :=
    char.valid
  have isChar : Char.ofNat char.val.toNat = char := Char.ofNat_toNat char
  unfold String.utf8EncodeChar
  generalize char.val.toNat = code at valid isChar ⊢
  subst isChar
  simp only
  split_ifs with one two three
  · have isOctet : (UInt8.ofNat code).toNat = code := by
      rw [UInt8.toNat_ofNat', Nat.mod_eq_of_lt (by omega)]
    rw [List.foldl_cons, List.foldl_nil, step, idle, isOctet]
    exact start_ascii decoder (by omega)
  · exact foldl_two_octets idle (by omega) (by omega)
  · exact foldl_three_octets idle (by omega) (by omega) (by omega)
  · exact foldl_four_octets idle (by omega) (by omega)

theorem foldl_encode
    {decoder : Decoder}
    (idle : decoder.owed = none)
    (chars : List Char) :
    ((encode chars).foldl step decoder).owed = none ∧
      ((encode chars).foldl step decoder).output = chars.reverse ++ decoder.output := by
  induction chars generalizing decoder with
  | nil => exact ⟨idle, rfl⟩
  | cons char chars inductionHypothesis =>
      rw [encode, List.flatMap_cons, List.foldl_append, foldl_utf8EncodeChar idle]
      obtain ⟨stillIdle, read⟩ := inductionHypothesis (owed_emit decoder char)
      refine ⟨stillIdle, ?_⟩
      rw [encode] at read
      simp [read]

end Decoder

/-- The octets of a text are decoded to this text. -/
theorem decodeLossy_encode (chars : List Char) :
    decodeLossy (encode chars) = chars := by
  obtain ⟨idle, read⟩ := Decoder.foldl_encode (rfl : ({} : Decoder).owed = none) chars
  rw [decodeLossy, Decoder.run, Decoder.finish, idle]
  simp [read]

end Text
end ScriptAudit
