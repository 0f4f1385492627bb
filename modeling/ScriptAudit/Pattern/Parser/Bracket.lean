import ScriptAudit.Pattern.Parser.Escape

/-!
# Bracketed classes

Character classes in brackets: single characters, ranges, escapes, ASCII classes, nested
classes, and the set operations between them. A `]` right behind the opening bracket and
a `-` at either end stand for themselves.

The linear engine reads them. The backtracking engine looks for the end of a class by
its brackets alone, writes its own escapes in the language of the linear engine, and
leaves the rest to that. Gaps do not stand in such a text.
-/

namespace ScriptAudit
namespace Pattern
namespace Parser

/-- An operation between the two halves of a bracketed class. -/
inductive SetOperation
  | inter
  | diff
  | symmDiff

/-- Apply an operation to two classes. -/
def SetOperation.apply (left right : CharClass) : SetOperation → CharClass
  | .inter => .inter left right
  | .diff => .diff left right
  | .symmDiff => .union (.diff left right) (.diff right left)

/-- What has been read of a bracketed class. -/
structure Members where
  /-- The left operand of the operation whose right operand is being read. -/
  pending : Option (CharClass × SetOperation) := none
  /-- The members of the operand that is being read. -/
  current : CharClass := .none

namespace Members

/-- Add the characters of a class. -/
def add (members : Members) (inner : CharClass) : Members :=
  { members with current := .union members.current inner }

/-- The class described so far. The operands of an operation are closed under case
variants before it is applied. -/
def close (fold : Bool) (members : Members) : CharClass :=
  match members.pending with
  | none => members.current
  | some (left, operation) =>
      operation.apply (foldClass fold left) (foldClass fold members.current)

/-- Start the right operand of an operation. -/
def operate (fold : Bool) (members : Members) (operation : SetOperation) : Members :=
  { pending := some (members.close fold, operation) }

end Members

/-- Read one character or escape of a bracketed class. -/
def readMember? (flags : Flags) : List Char → Option (Symbol × List Char)
  | [] => none
  | '\\' :: rest => readEscape? .linear flags rest
  | char :: rest => some (.char char, rest)

/-- Whether a `-` with something behind it is not part of a range. The first `#` of a
comment counts as a gap here, but not the comment. -/
def standsAlone (flags : Flags) (behind : List Char) : Bool :=
  let next :=
    if flags.verbose then
      match behind.dropWhile Text.isBlank with
      | '#' :: rest => (rest.dropWhile Text.isBlank).head?
      | rest => rest.head?
    else behind.head?
  next == some ']' || next == some '-'

/-- Read one character, escape or range of a bracketed class. -/
def readRange? (flags : Flags) (chars : List Char) : Option (CharClass × List Char) := do
  let (first, rest) ← readMember? flags chars
  let alone : Option (CharClass × List Char) :=
    match first with
    | .char char => some (.single char, rest)
    | .chars members => some (members, rest)
    | _ => none
  match skipBlanks flags.verbose rest with
  | '-' :: behind =>
      if standsAlone flags behind then alone
      else
        let (last, rest) ← readMember? flags (skipBlanks flags.verbose behind)
        match first, last with
        | .char low, .char high =>
            if low.toNat ≤ high.toNat then some (.range low.toNat high.toNat, rest)
            else none
        | _, _ => none
  | _ => alone

/-- Read an ASCII class, its opening bracket being read. -/
def readAsciiClass? (fold : Bool) (chars : List Char) : Option (CharClass × List Char) :=
  match chars with
  | ':' :: named =>
      let negated := named.head? == some '^'
      match (if negated then named.drop 1 else named).span (· != ':') with
      | (name, ':' :: ']' :: rest) =>
          (asciiClass? name).map fun members => (finishClass fold negated members, rest)
      | _ => none
  | _ => none

mutual

/-- Read a class up to its closing bracket, the opening one being read. -/
def readBracket? (flags : Flags) :
    (fuel : Nat) → List Char → Option (CharClass × List Char)
  | 0, _ => none
  | fuel + 1, chars =>
      let chars := skipBlanks flags.verbose chars
      let negated := chars.head? == some '^'
      let chars := if negated then chars.drop 1 else chars
      let (dashes, chars) := takeSpaced flags.verbose (· == '-') chars.length false chars
      let members : Members :=
        if dashes.isEmpty then {} else Members.add {} (.single '-')
      let result :=
        match dashes, chars with
        | [], ']' :: rest => readMembers? flags fuel (members.add (.single ']')) rest
        | _, _ => readMembers? flags fuel members chars
      result.map fun (inner, rest) => (finishClass flags.fold negated inner, rest)

/-- Read the members of a class up to its closing bracket. -/
def readMembers? (flags : Flags) :
    (fuel : Nat) → Members → List Char → Option (CharClass × List Char)
  | 0, _, _ => none
  | fuel + 1, members, chars =>
      match skipBlanks flags.verbose chars with
      | [] => none
      | ']' :: rest => some (members.close flags.fold, rest)
      | '[' :: rest =>
          let inner? :=
            (readAsciiClass? flags.fold rest).or (readBracket? flags fuel rest)
          match inner? with
          | some (inner, rest) => readMembers? flags fuel (members.add inner) rest
          | none => none
      | '&' :: '&' :: rest =>
          readMembers? flags fuel (members.operate flags.fold .inter) rest
      | '-' :: '-' :: rest =>
          readMembers? flags fuel (members.operate flags.fold .diff) rest
      | '~' :: '~' :: rest =>
          readMembers? flags fuel (members.operate flags.fold .symmDiff) rest
      | chars =>
          match readRange? flags chars with
          | some (inner, rest) => readMembers? flags fuel (members.add inner) rest
          | none => none

end

/-- Write a character so that it stands for itself in the linear language. -/
def quoteChar (char : Char) : List Char :=
  if "\\.+*?()|[]\x7b\x7d^$#&-~".toList.contains char then ['\\', char] else [char]

/-- Write the escape behind a backslash in the language of the linear engine. Some
letters stand for other characters than they do outside of brackets. -/
def rewriteEscape? (flags : Flags) : List Char → Option (List Char × List Char)
  | [] => none
  | char :: rest =>
      match char with
      | 'b' => some (['\x08'], rest)
      | '<' => some (['<'], rest)
      | '>' => some (['>'], rest)
      | 'h' => some ("[0-9A-Fa-f]".toList, rest)
      | 'H' => some ("[^0-9A-Fa-f]".toList, rest)
      | _ =>
          match readEscape? .backtracking flags (char :: rest) with
          | some (.char member, left) => some (quoteChar member, left)
          | some (.chars _, left) =>
              some ('\\' :: (char :: rest).take (rest.length + 1 - left.length), left)
          | _ => none

/-- Rewrite the text of a class, with `nested` brackets open in it, in the language of
the linear engine up to the bracket that closes the class. -/
def rewriteClass? (flags : Flags) :
    (fuel : Nat) → (nested : Nat) → List Char → Option (List Char × List Char)
  | 0, _, _ => none
  | fuel + 1, nested, chars =>
      let behind (front : List Char) (nested : Nat) (rest : List Char) :=
        (rewriteClass? flags fuel nested rest).map fun (text, left) =>
          (front ++ text, left)
      match chars with
      | [] => none
      | '\\' :: rest => (rewriteEscape? flags rest).bind fun (front, rest) =>
          behind front nested rest
      | '[' :: rest => behind ['['] (nested + 1) rest
      | ']' :: rest =>
          match nested with
          | 0 => some ([']'], rest)
          | nested + 1 => behind [']'] nested rest
      | char :: rest => behind [char] nested rest

/-- The characters in front of a class that do not count as its brackets. -/
def classSign (chars : List Char) : List Char :=
  let sign := if chars.head? = some '^' then ['^'] else []
  if (chars.drop sign.length).head? = some ']' then sign ++ [']'] else sign

/-- Read a class in the language of an engine, its opening bracket being read. -/
def readClass? (dialect : Dialect) (flags : Flags) (chars : List Char) :
    Option (CharClass × List Char) :=
  match dialect with
  | .linear => readBracket? flags (2 * chars.length + 2) chars
  | .backtracking => do
      let sign := classSign chars
      let (text, left) ←
        rewriteClass? flags (chars.length + 1) 0 (chars.drop sign.length)
      let text := sign ++ text
      let (members, rest) ←
        readBracket? { flags with verbose := false } (2 * text.length + 2) text
      if rest.isEmpty then some (members, left) else none

end Parser
end Pattern
end ScriptAudit
