/-!
# Plain text

A text that does not go to a terminal is written without control characters and
without the sequences that steer a terminal. A sequence starts with an escape
character. What follows decides how far it reaches; white space interrupts it.
-/

namespace ScriptAudit
namespace Text

/-- The kind of sequence that a character stands in. -/
inductive Sequence
  /-- No sequence. -/
  | none
  /-- The escape character stands in front. -/
  | opened
  /-- A sequence of few characters that any letter or digit ends. -/
  | short
  /-- A sequence with parameters, which a letter ends. -/
  | control
  /-- A command to the system, which a bell ends. -/
  | command
  /-- A string, which the octet of the string terminator ends. -/
  | string
  deriving Repr, DecidableEq

/-- Whether a control character counts as white space. -/
def isSpacing (char : Char) : Bool :=
  char == '\t' || char == '\n' || char == '\x0c' || char == '\r'

/-- Whether a character outside of sequences is written. -/
def isShown (char : Char) : Bool :=
  if char.toNat < 32 then isSpacing char else char.toNat ≠ 127

/-- Whether a code belongs to a printable ASCII character from `low` on. -/
def isAsciiFrom (low : Nat) (char : Char) : Bool :=
  low ≤ char.toNat && char.toNat < 127

/-- The octet that ends a string. -/
def stringTerminator : UInt8 := 0x9C

/-- The kind of sequence behind a character that is not written. -/
def Sequence.next (sequence : Sequence) (char : Char) : Sequence :=
  if char = '\x1b' then .opened
  else if char = '\x18' || char = '\x1a' then .none
  else
    match sequence with
    | .none => .none
    | .opened =>
        if char = '[' then .control
        else if char = ']' then .command
        else if ['P', 'X', '^', '_'].contains char then .string
        else if isAsciiFrom 0x30 char then .none
        else if isAsciiFrom 0x20 char then .short
        else .opened
    | .short => if isAsciiFrom 0x30 char then .none else .short
    | .control => if isAsciiFrom 0x40 char then .none else .control
    | .command => if char = '\x07' then .none else .command
    | .string =>
        if (String.utf8EncodeChar char).contains stringTerminator then .none
        else .string

/-- Whether a character inside of a sequence is written all the same. -/
def Sequence.shows (sequence : Sequence) (char : Char) : Bool :=
  match sequence with
  | .none => isShown char
  | .command => false
  | .string => false
  | _ => isSpacing char

/-- The state in which a text is written. -/
structure PlainWriter where
  /-- The sequence in which the last character that was not written stood. -/
  sequence : Sequence := .none
  /-- The last character was written. Then only a character that is never written
  resumes the sequence. -/
  writing : Bool := true
  /-- What has been written, the last character first. -/
  output : List Char := []

namespace PlainWriter

/-- Write a character. One beyond ASCII ends any sequence. -/
def write (writer : PlainWriter) (char : Char) : PlainWriter where
  sequence := if char.toNat < 128 then writer.sequence else .none
  writing := true
  output := char :: writer.output

/-- Take one character. -/
def step (writer : PlainWriter) (char : Char) : PlainWriter :=
  if (writer.writing && isShown char) || writer.sequence.shows char then
    writer.write char
  else
    { writer with sequence := writer.sequence.next char, writing := false }

end PlainWriter

/-- A text without control sequences. -/
def plain (chars : List Char) : List Char :=
  (chars.foldl PlainWriter.step {}).output.reverse

end Text
end ScriptAudit
