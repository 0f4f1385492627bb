import ScriptAudit.Pattern.Parser.Gap
import ScriptAudit.Pattern.Parser.Property
import ScriptAudit.Pattern.Regex
import ScriptAudit.Text.Code

/-!
# Escapes

What stands behind a backslash in a pattern. Both engines read characters by their
codes, properties, and letters for classes, positions and controls. Only the
backtracking engine knows references to groups, hexadecimal digits as a class, and the
escape character. Only the linear engine knows the one-sided word boundaries that are
named in braces, and lets the gaps of a verbose pattern stand inside of escapes. A
letter without a meaning is refused, and so are the letters that ask the backtracking
engine for more than a match: to forget where it began, or to begin where the last one
ended.
-/

namespace ScriptAudit
namespace Pattern
namespace Parser

/-- The smallest unit of a pattern that an escape can denote. -/
inductive Symbol
  | char (char : Char)
  | chars (members : CharClass)
  | assertion (condition : Assertion)
  | backref (index : Nat)

/-- Read the decimal number at the start of a text. -/
def readNumber? (chars : List Char) : Option (Nat × List Char) :=
  let (digits, rest) := chars.span Char.isDigit
  (Text.digitsValue? 10 digits).map fun value => (value, rest)

/-- Close a class under case variants if asked to. -/
def foldClass (fold : Bool) (inner : CharClass) : CharClass :=
  if fold then .folded inner else inner

/-- Close a class under case variants if asked to, and then complement it. -/
def finishClass (fold negated : Bool) (inner : CharClass) : CharClass :=
  let closed := foldClass fold inner
  if negated then .compl closed else closed

/-- Whether gaps may stand inside of an escape. -/
def opensEscapes (dialect : Dialect) (flags : Flags) : Bool :=
  match dialect with
  | .linear => flags.verbose
  | .backtracking => false

/-- The number of digits of a code that stands behind a letter without braces. -/
def codeLength? : Char → Option Nat
  | 'x' => some 2
  | 'u' => some 4
  | 'U' => some 8
  | _ => none

/-- The largest number of digits of a code in braces. -/
def bracedLength (dialect : Dialect) (chars : List Char) : Nat :=
  match dialect with
  | .linear => chars.length
  | .backtracking => 8

/-- Whether a character is a hexadecimal digit. -/
def isHexDigit (char : Char) : Bool :=
  (Text.hexDigit? char).isSome

/-- Read the code of a character: as many digits as its letter asks for, or any digits
in braces. -/
def readCode? (dialect : Dialect) (flags : Flags) (length : Nat) (chars : List Char) :
    Option (Char × List Char) :=
  let spaced := opensEscapes dialect flags
  let char? (digits : List Char) :=
    (Text.digitsValue? 16 digits).bind Text.charOfCode?
  match skipBlanks spaced chars with
  | '\x7b' :: inner =>
      match takeSpaced spaced isHexDigit (bracedLength dialect inner) false inner with
      | (digits, '\x7d' :: rest) => (char? digits).map fun char => (char, rest)
      | _ => none
  | chars =>
      let (digits, rest) := takeSpaced spaced isHexDigit length false chars
      if digits.length = length then (char? digits).map fun char => (char, rest)
      else none

/-- Read the name of a property, one letter or any in braces. -/
def readPropertyName? (dialect : Dialect) (flags : Flags) (chars : List Char) :
    Option (List Char × List Char) :=
  let spaced := opensEscapes dialect flags
  match skipBlanks spaced chars with
  | '\x7b' :: inner =>
      match takeSpaced spaced (· != '\x7d') inner.length false inner with
      | (name, '\x7d' :: rest) => some (name, rest)
      | _ => none
  | '\\' :: _ => none
  | letter :: rest => some ([letter], rest)
  | [] => none

/-- Read the characters with a property, or those without it. -/
def readProperty? (dialect : Dialect) (flags : Flags) (negated : Bool)
    (chars : List Char) : Option (CharClass × List Char) := do
  let (name, rest) ← readPropertyName? dialect flags chars
  let members ← propertyClass? name
  return (finishClass flags.fold negated members, rest)

/-- The class of hexadecimal digits. -/
def hexClass : CharClass :=
  .ofRanges [('0', '9'), ('A', 'F'), ('a', 'f')]

/-- The class or the complement that a letter stands for. -/
def namedClass? : Dialect → Char → Option CharClass
  | _, 'd' => some .digit
  | _, 'D' => some (.compl .digit)
  | _, 's' => some .blank
  | _, 'S' => some (.compl .blank)
  | _, 'w' => some .word
  | _, 'W' => some (.compl .word)
  | .backtracking, 'h' => some hexClass
  | .backtracking, 'H' => some (.compl hexClass)
  | _, _ => none

/-- The position that a letter stands for. -/
def namedAssertion? : Char → Option Assertion
  | 'A' => some .textStart
  | 'z' => some .textEnd
  | 'b' => some .wordBoundary
  | 'B' => some .notWordBoundary
  | '<' => some .wordStart
  | '>' => some .wordEnd
  | _ => none

/-- The one-sided word boundary with a given name. -/
def bracedAssertion? (name : List Char) : Option Assertion :=
  if name = "start".toList then some .wordStart
  else if name = "end".toList then some .wordEnd
  else if name = "start-half".toList then some .noWordBefore
  else if name = "end-half".toList then some .noWordAfter
  else none

/-- Read what may follow the letter of a word boundary. Braces that do not start
with a letter or a dash are left to the reader of repetitions. -/
def readBoundary? (dialect : Dialect) (flags : Flags) (letter : Char)
    (condition : Assertion) (rest : List Char) : Option (Assertion × List Char) :=
  match dialect, letter, rest with
  | .backtracking, 'b', '\x7b' :: _ => none
  | .backtracking, 'B', '\x7b' :: _ => none
  | .linear, 'b', '\x7b' :: inner =>
      match takeSpaced flags.verbose (fun char => char.isAlpha || char == '-')
          inner.length false inner with
      | ([], _ :: _) => some (condition, rest)
      | (name, '\x7d' :: rest) =>
          (bracedAssertion? name).map fun condition => (condition, rest)
      | _ => none
  | _, _, _ => some (condition, rest)

/-- The control character that a letter stands for. -/
def namedControl? : Dialect → Char → Option Char
  | _, 'a' => some '\x07'
  | _, 't' => some '\t'
  | _, 'n' => some '\n'
  | _, 'v' => some '\x0b'
  | _, 'f' => some '\x0c'
  | _, 'r' => some '\r'
  | .backtracking, 'e' => some '\x1b'
  | _, _ => none

/-- Whether a character may be escaped to stand for itself. -/
def mayEscape (dialect : Dialect) (char : Char) : Bool :=
  match dialect with
  | .linear => char.toNat < 128 && !char.isAlphanum
  | .backtracking => 32 ≤ char.toNat && char.toNat < 127 && !char.isAlphanum

/-- Read a reference to a group, its first digit included. -/
def readBackref? (dialect : Dialect) (chars : List Char) : Option (Symbol × List Char) :=
  match dialect with
  | .linear => none
  | .backtracking => (readNumber? chars).map fun (index, rest) => (.backref index, rest)

/-- Read what follows a backslash. -/
def readEscape? (dialect : Dialect) (flags : Flags) :
    List Char → Option (Symbol × List Char)
  | [] => none
  | char :: rest =>
      if char.isDigit then readBackref? dialect (char :: rest)
      else if let some length := codeLength? char then
        (readCode? dialect flags length rest).map fun (char, rest) => (.char char, rest)
      else if char = 'p' || char = 'P' then
        (readProperty? dialect flags (char == 'P') rest).map fun (members, rest) =>
          (.chars members, rest)
      else if let some members := namedClass? dialect char then
        some (.chars members, rest)
      else if let some condition := namedAssertion? char then
        (readBoundary? dialect flags char condition rest).map fun (condition, rest) =>
          (.assertion condition, rest)
      else if let some control := namedControl? dialect char then
        some (.char control, rest)
      else if mayEscape dialect char then
        some (.char char, rest)
      else none

end Parser
end Pattern
end ScriptAudit
