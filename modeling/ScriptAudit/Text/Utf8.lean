/-!
# Reading octets as text

The decoder reads UTF-8 one octet at a time. Between two characters it owes
nothing; inside of one it knows how many octets are missing and in which range the
next one must lie. Octets that cannot be continued to a character are replaced by
U+FFFD, one for every longest part that could have started a character.
-/

namespace ScriptAudit
namespace Text

/-- Raw bytes. -/
abbrev Octets := List UInt8

/-- A character whose first octets have been read. -/
structure Owed where
  /-- The number of octets behind the next one that are still missing. -/
  later : Nat
  /-- The range of the next octet. -/
  low : Nat
  high : Nat
  /-- The bits read so far. -/
  bits : Nat
  deriving Repr, DecidableEq

/-- The state of a decoder. -/
structure Decoder where
  /-- The character that is being read, if any. -/
  owed : Option Owed := none
  /-- The characters read so far, the last one first. -/
  output : List Char := []
  /-- Whether no octet had to be replaced. -/
  clean : Bool := true

namespace Decoder

/-- The character that stands for unreadable octets. -/
def replacement : Char := '\ufffd'

/-- What the first octet of a character of several octets announces. -/
def announced? (octet : Nat) : Option Owed :=
  if 0xC2 ≤ octet && octet ≤ 0xDF then some ⟨0, 0x80, 0xBF, octet - 0xC0⟩
  else if octet = 0xE0 then some ⟨1, 0xA0, 0xBF, 0⟩
  else if octet = 0xED then some ⟨1, 0x80, 0x9F, 0xD⟩
  else if 0xE1 ≤ octet && octet ≤ 0xEF then some ⟨1, 0x80, 0xBF, octet - 0xE0⟩
  else if octet = 0xF0 then some ⟨2, 0x90, 0xBF, 0⟩
  else if octet = 0xF4 then some ⟨2, 0x80, 0x8F, 4⟩
  else if 0xF1 ≤ octet && octet ≤ 0xF3 then some ⟨2, 0x80, 0xBF, octet - 0xF0⟩
  else none

/-- Append a character. -/
def emit (decoder : Decoder) (char : Char) : Decoder :=
  { decoder with owed := none, output := char :: decoder.output }

/-- Append the replacement character. -/
def refuse (decoder : Decoder) : Decoder :=
  { owed := none, output := replacement :: decoder.output, clean := false }

/-- Read an octet between two characters. -/
def start (decoder : Decoder) (octet : Nat) : Decoder :=
  if octet < 0x80 then decoder.emit (Char.ofNat octet)
  else
    match announced? octet with
    | some owed => { decoder with owed := some owed }
    | none => decoder.refuse

/-- Read one octet. An octet that cannot continue the current character ends it
and is read again. -/
def step (decoder : Decoder) (octet : UInt8) : Decoder :=
  let code := octet.toNat
  match decoder.owed with
  | none => decoder.start code
  | some owed =>
      if owed.low ≤ code && code ≤ owed.high then
        let bits := owed.bits * 64 + (code - 0x80)
        match owed.later with
        | 0 => decoder.emit (Char.ofNat bits)
        | later + 1 => { decoder with owed := some ⟨later, 0x80, 0xBF, bits⟩ }
      else decoder.refuse.start code

/-- End the text; a character that is not complete is replaced. -/
def finish (decoder : Decoder) : Decoder :=
  if decoder.owed.isSome then decoder.refuse else decoder

/-- Read all octets of a text. -/
def run (octets : Octets) : Decoder :=
  (octets.foldl step {}).finish

end Decoder

/-- The characters of a text, with unreadable octets replaced. -/
def decodeLossy (octets : Octets) : List Char :=
  (Decoder.run octets).output.reverse

/-- The characters of a text, if every octet can be read. -/
def decode? (octets : Octets) : Option (List Char) :=
  let decoder := Decoder.run octets
  if decoder.clean then some decoder.output.reverse else none

/-- The octets of a text. -/
def encode (chars : List Char) : Octets :=
  chars.flatMap String.utf8EncodeChar

end Text
end ScriptAudit
