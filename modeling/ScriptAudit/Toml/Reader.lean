import ScriptAudit.Toml.Scalar

/-!
# Reading TOML

A reader for TOML 1.0 documents. It tells whether a text is a document, and if so
what its table holds; it does not say where a text goes wrong.
-/

namespace ScriptAudit
namespace Toml

/-- Drop blanks and tabs. -/
def skipBlanks (chars : List Char) : List Char :=
  chars.dropWhile fun char => char == ' ' || char == '\t'

/-- Whether a character may stand for itself in comments and strings. -/
def isPlain (char : Char) : Bool :=
  char == '\t' || (32 ≤ char.toNat && char.toNat ≠ 127)

/-- Drop a line ending. -/
def newline? : List Char → Option (List Char)
  | '\n' :: rest => some rest
  | '\r' :: '\n' :: rest => some rest
  | _ => none

/-- Drop a comment, if there is one. -/
def skipComment (chars : List Char) : List Char :=
  match chars with
  | '#' :: rest => rest.dropWhile isPlain
  | chars => chars

/-- Drop blanks and a comment up to the end of a line or of the text. -/
def endOfLine? (chars : List Char) : Option (List Char) :=
  match skipComment (skipBlanks chars) with
  | [] => some []
  | rest => newline? rest

/-- Drop blanks, comments and line endings, at most `fuel` lines. -/
def skipLines : (fuel : Nat) → List Char → List Char
  | 0, chars => chars
  | fuel + 1, chars =>
      let rest := skipComment (skipBlanks chars)
      match newline? rest with
      | some rest => skipLines fuel rest
      | none => rest

/-- Read a given number of hexadecimal digits as a character. -/
def readCode? (count : Nat) (chars : List Char) : Option (Char × List Char) :=
  let digits := chars.take count
  if digits.length = count then
    ((Text.digitsValue? 16 digits).bind Text.charOfCode?).map fun char =>
      (char, chars.drop count)
  else none

/-- Read what follows a backslash. -/
def readEscape? : List Char → Option (Char × List Char)
  | 'b' :: rest => some ('\x08', rest)
  | 't' :: rest => some ('\t', rest)
  | 'n' :: rest => some ('\n', rest)
  | 'f' :: rest => some ('\x0c', rest)
  | 'r' :: rest => some ('\r', rest)
  | '"' :: rest => some ('"', rest)
  | '\\' :: rest => some ('\\', rest)
  | 'u' :: rest => readCode? 4 rest
  | 'U' :: rest => readCode? 8 rest
  | _ => none

/-- Read a string up to the quote at its end, given the characters read so far, the
last one first. -/
def readBasic? : (fuel : Nat) → List Char → List Char →
    Option (List Char × List Char)
  | 0, _, _ => none
  | fuel + 1, read, chars =>
      match chars with
      | [] => none
      | '"' :: rest => some (read.reverse, rest)
      | '\\' :: rest =>
          match readEscape? rest with
          | some (char, rest) => readBasic? fuel (char :: read) rest
          | none => none
      | char :: rest =>
          if isPlain char then readBasic? fuel (char :: read) rest else none

/-- Read a string without escapes up to the quote at its end. -/
def readLiteral? (chars : List Char) : Option (List Char × List Char) :=
  match chars.span fun char => isPlain char && char != '\'' with
  | (value, '\'' :: rest) => some (value, rest)
  | _ => none

/-- Up to two quotes may stand in front of the three that close a string of several
lines. -/
def closeQuotes (quote : Char) (read rest : List Char) : List Char × List Char :=
  match rest with
  | first :: second :: behind =>
      if first = quote then
        if second = quote then ((quote :: quote :: read).reverse, behind)
        else ((quote :: read).reverse, second :: behind)
      else (read.reverse, rest)
  | [only] =>
      if only = quote then ((quote :: read).reverse, []) else (read.reverse, rest)
  | [] => (read.reverse, rest)

/-- Drop blanks and line endings. -/
def skipBlankLines (chars : List Char) : List Char :=
  chars.dropWhile fun char =>
    char == ' ' || char == '\t' || char == '\n' || char == '\r'

/-- Whether every carriage return among the characters dropped belongs to a line
ending. -/
def returnsPaired : List Char → Bool
  | [] => true
  | '\r' :: '\n' :: rest => returnsPaired rest
  | '\r' :: _ => false
  | char :: rest =>
      if char == ' ' || char == '\t' || char == '\n' then returnsPaired rest else true

/-- Read a string of several lines up to the three quotes at its end. -/
def readBasicLines? : (fuel : Nat) → List Char → List Char →
    Option (List Char × List Char)
  | 0, _, _ => none
  | fuel + 1, read, chars =>
      match chars with
      | [] => none
      | '"' :: '"' :: '"' :: rest => some (closeQuotes '"' read rest)
      | '\\' :: rest =>
          match newline? (skipBlanks rest) with
          | some rest =>
              if returnsPaired rest then readBasicLines? fuel read (skipBlankLines rest)
              else none
          | none =>
              match readEscape? rest with
              | some (char, rest) => readBasicLines? fuel (char :: read) rest
              | none => none
      | '\r' :: '\n' :: rest => readBasicLines? fuel ('\n' :: read) rest
      | char :: rest =>
          if isPlain char || char == '\n' then readBasicLines? fuel (char :: read) rest
          else none

/-- Read a string of several lines without escapes up to the three quotes at its
end. -/
def readLiteralLines? : (fuel : Nat) → List Char → List Char →
    Option (List Char × List Char)
  | 0, _, _ => none
  | fuel + 1, read, chars =>
      match chars with
      | [] => none
      | '\'' :: '\'' :: '\'' :: rest => some (closeQuotes '\'' read rest)
      | '\r' :: '\n' :: rest => readLiteralLines? fuel ('\n' :: read) rest
      | char :: rest =>
          if isPlain char || char == '\n' then readLiteralLines? fuel (char :: read) rest
          else none

/-- A line ending right behind the quotes that open a string of several lines is no
part of it. -/
def skipFirstLine (chars : List Char) : List Char :=
  (newline? chars).getD chars

/-- Read a string of any of the four kinds. -/
def readText? (fuel : Nat) (chars : List Char) : Option (List Char × List Char) :=
  match chars with
  | '"' :: '"' :: '"' :: rest => readBasicLines? fuel [] (skipFirstLine rest)
  | '\'' :: '\'' :: '\'' :: rest => readLiteralLines? fuel [] (skipFirstLine rest)
  | '"' :: rest => readBasic? fuel [] rest
  | '\'' :: rest => readLiteral? rest
  | _ => none

/-- Whether a character may stand in a key without quotes. -/
def isBareChar (char : Char) : Bool :=
  char.isAlphanum || char == '_' || char == '-'

/-- Read one part of a key. -/
def readKeyPart? (chars : List Char) : Option (String × List Char) :=
  match chars with
  | '"' :: rest =>
      (readBasic? (rest.length + 1) [] rest).map fun (name, rest) =>
        (String.ofList name, rest)
  | '\'' :: rest =>
      (readLiteral? rest).map fun (name, rest) => (String.ofList name, rest)
  | chars =>
      match chars.span isBareChar with
      | ([], _) => none
      | (name, rest) => some (String.ofList name, rest)

/-- The number of parts that a key must stay below, and the number of arrays and
inline tables that may not stand in one another. -/
def nestingLimit : Nat := 80

/-- Read a key, its last part apart from those in front, and the blanks around
it. -/
def readKey? : (fuel : Nat) → List String → List Char →
    Option (List String × String × List Char)
  | 0, _, _ => none
  | fuel + 1, read, chars =>
      match readKeyPart? (skipBlanks chars) with
      | none => none
      | some (name, rest) =>
          match skipBlanks rest with
          | '.' :: rest => readKey? fuel (name :: read) rest
          | rest => some (read.reverse, name, rest)

mutual

/-- Read a value, in which at most `depth` arrays and inline tables may stand in one
another. No value runs out of `fuel` that exceeds twice the number of characters:
every second call drops one of them. -/
def readValue? : (fuel depth : Nat) → List Char → Option (Toml × List Char)
  | 0, _, _ => none
  | fuel + 1, depth, chars =>
      match chars with
      | '"' :: _ | '\'' :: _ =>
          (readText? fuel chars).map fun (value, rest) =>
            (.string (String.ofList value), rest)
      | '[' :: rest =>
          match depth with
          | 0 => none
          | depth + 1 => readItems? fuel depth [] (skipLines fuel rest)
      | '\x7b' :: rest =>
          match depth with
          | 0 => none
          | depth + 1 =>
              match skipBlanks rest with
              | '\x7d' :: rest => some (.table [], rest)
              | rest => readPairs? fuel depth [] rest
      | chars =>
          let (scalar, rest) := splitScalar chars
          (scalar? scalar).map fun value => (value, rest)

/-- Read the items of an array, given those read so far, the last one first. -/
def readItems? :
    (fuel depth : Nat) → List Toml → List Char → Option (Toml × List Char)
  | 0, _, _, _ => none
  | fuel + 1, depth, read, chars =>
      match chars with
      | ']' :: rest => some (.array read.reverse, rest)
      | chars =>
          match readValue? fuel depth chars with
          | none => none
          | some (item, rest) =>
              match skipLines fuel rest with
              | ',' :: rest =>
                  readItems? fuel depth (item :: read) (skipLines fuel rest)
              | ']' :: rest => some (.array (item :: read).reverse, rest)
              | _ => none

/-- Read the keys and values of an inline table, given the entries read so far. -/
def readPairs? :
    (fuel depth : Nat) → Entries → List Char → Option (Toml × List Char)
  | 0, _, _, _ => none
  | fuel + 1, depth, entries, chars =>
      match readKey? (nestingLimit - 1) [] chars with
      | some (path, name, '=' :: rest) =>
          match readValue? fuel depth (skipBlanks rest) with
          | none => none
          | some (value, rest) =>
              match entries.define path name value with
              | none => none
              | some entries =>
                  match skipBlanks rest with
                  | ',' :: rest => readPairs? fuel depth entries rest
                  | '\x7d' :: rest => some (.table (entriesToToml entries), rest)
                  | _ => none
      | _ => none

end

/-- What has been read of a document. -/
structure Document where
  entries : Entries := []
  /-- The path of the table that was opened last. -/
  current : List String := []

/-- Read one line of a document, or several when a value goes on. -/
def readStatement? (fuel : Nat) (document : Document) (chars : List Char) :
    Option (Document × List Char) :=
  match skipBlanks chars with
  | [] => some (document, [])
  | '#' :: rest =>
      (endOfLine? ('#' :: rest)).map fun rest => (document, rest)
  | '[' :: '[' :: rest =>
      match readKey? (nestingLimit - 1) [] rest with
      | some (path, name, ']' :: ']' :: rest) => do
          let entries ← document.entries.openRow path name
          let rest ← endOfLine? rest
          some (⟨entries, path ++ [name]⟩, rest)
      | _ => none
  | '[' :: rest =>
      match readKey? (nestingLimit - 1) [] rest with
      | some (path, name, ']' :: rest) => do
          let entries ← document.entries.openTable path name
          let rest ← endOfLine? rest
          some (⟨entries, path ++ [name]⟩, rest)
      | _ => none
  | chars =>
      match newline? chars with
      | some rest => some (document, rest)
      | none =>
          match readKey? (nestingLimit - 1) [] chars with
          | some (path, name, '=' :: rest) => do
              let (value, rest) ←
                readValue? fuel (nestingLimit - 1) (skipBlanks rest)
              let entries ← document.entries.defineIn document.current path name value
              let rest ← endOfLine? rest
              some ({ document with entries := entries }, rest)
          | _ => none

/-- Read the lines of a document. -/
def readStatements? : (fuel : Nat) → Document → List Char → Option Document
  | _, document, [] => some document
  | 0, _, _ :: _ => none
  | fuel + 1, document, chars =>
      match readStatement? (2 * (fuel + 1)) document chars with
      | some (document, rest) => readStatements? fuel document rest
      | none => none

/-- Read a document. A byte order mark in front of it is dropped. -/
def parse? (chars : List Char) : Option (List (String × Toml)) :=
  let chars :=
    match chars with
    | '\ufeff' :: rest => rest
    | chars => chars
  (readStatements? (chars.length + 1) {} chars).map fun document =>
    entriesToToml document.entries

end Toml
end ScriptAudit
