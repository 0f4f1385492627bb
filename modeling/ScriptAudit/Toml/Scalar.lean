import ScriptAudit.Text.Code
import ScriptAudit.Toml

/-!
# TOML scalars

Numbers, truth values and points in time. A scalar is a longest run of the
characters that scalars are made of, and it has to be well formed as a whole.
-/

namespace ScriptAudit
namespace Toml

/-- Remove single underscores between digits; `before` tells whether a digit stands
in front. -/
def dropUnderscores? (isDigit : Char → Bool) (before : Bool) :
    List Char → Option (List Char)
  | [] => some []
  | ['_'] => none
  | '_' :: next :: rest =>
      if before && isDigit next then
        (dropUnderscores? isDigit true rest).map (next :: ·)
      else none
  | char :: rest =>
      (dropUnderscores? isDigit (isDigit char) rest).map (char :: ·)

/-- Split a sign from the characters behind it. -/
def splitSign : List Char → Bool × List Char
  | '-' :: rest => (true, rest)
  | '+' :: rest => (false, rest)
  | chars => (false, chars)

/-- An integer that fits into a machine word. -/
def wordInteger? (value : Int) : Option Toml :=
  if -(Number.signedRange : Int) ≤ value && value < (Number.signedRange : Int) then
    some (.integer value)
  else none

/-- Digits without a superfluous zero in front. -/
def plainDigits? (chars : List Char) : Option Nat :=
  if chars.length ≠ 1 && chars.head? = some '0' then none
  else Text.digitsValue? 10 chars

/-- Read an integer. -/
def integer? (chars : List Char) : Option Toml :=
  match chars with
  | '0' :: 'x' :: digits => based 16 digits
  | '0' :: 'o' :: digits => based 8 digits
  | '0' :: 'b' :: digits => based 2 digits
  | chars =>
      let (negative, digits) := splitSign chars
      match (dropUnderscores? Char.isDigit false digits).bind plainDigits? with
      | some value => wordInteger? (if negative then -(value : Int) else value)
      | none => none
where
  /-- An integer with the mark of its base. -/
  based (base : Nat) (digits : List Char) : Option Toml :=
    match (dropUnderscores? (fun char => (Text.hexDigit? char).isSome) false digits).bind
        (Text.digitsValue? base) with
    | some value => wordInteger? value
    | none => none

/-- A number that is no integer, as messages show it. -/
def floatText? (negative : Bool) (digits : Nat) (exponent : Int) : Option String :=
  match Number.Binary64.ofDecimal? digits exponent with
  | some number =>
      let text := (Number.shortest .up number).positional
      some (String.ofList (if negative then '-' :: text else text))
  | none => if negative then some "-inf" else none

/-- Read the exponent of a number, if there is one. -/
def exponent? (chars : List Char) : Option Int :=
  match chars with
  | [] => some 0
  | mark :: rest =>
      if mark = 'e' || mark = 'E' then
        let (negative, digits) := splitSign rest
        (Text.digitsValue? 10 digits).map fun value =>
          if negative then -(value : Int) else value
      else none

/-- Read a number with a fraction or an exponent. -/
def decimal? (negative : Bool) (chars : List Char) : Option Toml := do
  let chars ← dropUnderscores? Char.isDigit false chars
  let (whole, rest) := chars.span Char.isDigit
  let wholeValue ← plainDigits? whole
  let (fraction, rest) ←
    match rest with
    | '.' :: rest =>
        match rest.span Char.isDigit with
        | ([], _) => none
        | (fraction, rest) => some (fraction, rest)
    | rest => some ([], rest)
  if fraction.isEmpty && rest.isEmpty then none
  else
    let exponent ← exponent? rest
    let digits := fraction.foldl
      (fun value digit => value * 10 + (digit.toNat - 48)) wholeValue
    (floatText? negative digits (exponent - fraction.length)).map .float

/-- Read a number that is no integer. -/
def float? (chars : List Char) : Option Toml :=
  let (negative, magnitude) := splitSign chars
  if magnitude = ['i', 'n', 'f'] then some (.float (if negative then "-inf" else "inf"))
  else if magnitude = ['n', 'a', 'n'] then some (.float "NaN")
  else decimal? negative magnitude

/-- Read two digits whose value lies in a range. -/
def twoDigits? (low high : Nat) : List Char → Option (Nat × List Char)
  | first :: second :: rest =>
      if first.isDigit && second.isDigit then
        let value := (first.toNat - 48) * 10 + (second.toNat - 48)
        if low ≤ value && value ≤ high then some (value, rest) else none
      else none
  | _ => none

/-- The number of days of a month. -/
def monthLength (year month : Nat) : Nat :=
  if month = 2 then
    if year % 4 = 0 && (year % 100 ≠ 0 || year % 400 = 0) then 29 else 28
  else if month = 4 || month = 6 || month = 9 || month = 11 then 30
  else 31

/-- Read a day of the calendar. -/
def date? (chars : List Char) : Option (List Char) := do
  let (century, rest) ← twoDigits? 0 99 chars
  let (years, rest) ← twoDigits? 0 99 rest
  match rest with
  | '-' :: rest =>
      let (month, rest) ← twoDigits? 1 12 rest
      match rest with
      | '-' :: rest =>
          let (_, rest) ← twoDigits? 1 (monthLength (century * 100 + years) month) rest
          some rest
      | _ => none
  | _ => none

/-- Read a time of day. -/
def time? (chars : List Char) : Option (List Char) := do
  let (_, rest) ← twoDigits? 0 23 chars
  match rest with
  | ':' :: rest =>
      let (_, rest) ← twoDigits? 0 59 rest
      match rest with
      | ':' :: rest =>
          let (_, rest) ← twoDigits? 0 60 rest
          match rest with
          | '.' :: rest =>
              match rest.span Char.isDigit with
              | ([], _) => none
              | (_, rest) => some rest
          | rest => some rest
      | _ => none
  | _ => none

/-- Read the distance from universal time, if it is given. -/
def offset? (chars : List Char) : Option (List Char) :=
  match chars with
  | 'Z' :: rest | 'z' :: rest => some rest
  | '+' :: rest | '-' :: rest => do
      let (_, rest) ← twoDigits? 0 23 rest
      match rest with
      | ':' :: rest =>
          let (_, rest) ← twoDigits? 0 59 rest
          some rest
      | _ => none
  | chars => some chars

/-- Whether a text is a point in time: a day, a time of day, or both. -/
def isDatetime (chars : List Char) : Bool :=
  match date? chars with
  | some [] => true
  | some (mark :: rest) =>
      (mark = 'T' || mark = 't' || mark = ' ') &&
        ((time? rest).bind offset?) == some []
  | none => time? chars == some []

/-- Read a scalar that is not a string. -/
def scalar? (chars : List Char) : Option Toml :=
  if chars = ['t', 'r', 'u', 'e'] then some (.bool true)
  else if chars = ['f', 'a', 'l', 's', 'e'] then some (.bool false)
  else if isDatetime chars then some (.datetime (String.ofList chars))
  else integer? chars <|> float? chars

/-- Whether a character may stand in a scalar that is not a string. -/
def isScalarChar (char : Char) : Bool :=
  char.isAlphanum || char == '_' || char == '+' || char == '-' || char == '.' ||
    char == ':'

/-- Split a scalar from what follows it. A day and a time of day may have a blank
between them. -/
def splitScalar (chars : List Char) : List Char × List Char :=
  let (scalar, rest) := chars.span isScalarChar
  match rest with
  | ' ' :: digit :: _ =>
      if (date? scalar) == some [] && digit.isDigit then
        let (time, behind) := (rest.drop 1).span isScalarChar
        (scalar ++ ' ' :: time, behind)
      else (scalar, rest)
  | _ => (scalar, rest)

end Toml
end ScriptAudit
