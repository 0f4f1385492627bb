import ScriptAudit.Json
import ScriptAudit.Number.Word
import ScriptAudit.Text.Code

/-!
# Reading JSON

A reader for JSON texts. Whether a number was written with a point or an exponent
is kept, and so is the order of fields. Of the digits of a number only so many are
kept as fit into a machine word; an integer with more digits, or one below the
signed machine words, is no integer any more.
-/

namespace ScriptAudit
namespace Json

/-- Drop white space. -/
def skipSpace (chars : List Char) : List Char :=
  chars.dropWhile fun char =>
    char == ' ' || char == '\n' || char == '\r' || char == '\t'

/-- The value of a hexadecimal digit. -/
def hexValue? (char : Char) : Option Nat :=
  Text.hexDigit? char

/-- The value of four hexadecimal digits. -/
def codeValue? (first second third fourth : Char) : Option Nat := do
  let first ← hexValue? first
  let second ← hexValue? second
  let third ← hexValue? third
  let fourth ← hexValue? fourth
  some (((first * 16 + second) * 16 + third) * 16 + fourth)

/-- The character behind a backslash. -/
def unescape? : Char → Option Char
  | '"' => some '"'
  | '\\' => some '\\'
  | '/' => some '/'
  | 'b' => some '\x08'
  | 'f' => some '\x0c'
  | 'n' => some '\n'
  | 'r' => some '\r'
  | 't' => some '\t'
  | _ => none

/-- The character of two halves of a pair. -/
def pairValue? (high low : Nat) : Option Char :=
  if 0xD800 ≤ high && high < 0xDC00 && 0xDC00 ≤ low && low < 0xE000 then
    some (Char.ofNat (0x10000 + (high - 0xD800) * 0x400 + (low - 0xDC00)))
  else none

/-- Read a string up to its closing quote, given the characters read so far, the
last one first. -/
def readString? (read : List Char) : List Char → Option (List Char × List Char)
  | [] => none
  | '"' :: rest => some (read.reverse, rest)
  | '\\' :: 'u' :: a :: b :: c :: d :: rest =>
      match codeValue? a b c d with
      | none => none
      | some code =>
          if code < 0xD800 || 0xE000 ≤ code then
            readString? (Char.ofNat code :: read) rest
          else
            match rest with
            | '\\' :: 'u' :: e :: f :: g :: h :: rest =>
                match (codeValue? e f g h).bind (pairValue? code) with
                | some char => readString? (char :: read) rest
                | none => none
            | _ => none
  | '\\' :: letter :: rest =>
      match unescape? letter with
      | some char => readString? (char :: read) rest
      | none => none
  | char :: rest =>
      if char.toNat < 32 || char = '\\' then none
      else readString? (char :: read) rest

/-- The value of decimal digits. -/
def digitsValue (digits : List Char) : Nat :=
  digits.foldl (fun value digit => value * 10 + (digit.toNat - 48)) 0

/-- Read an exponent and its sign. -/
def readExponent? (chars : List Char) : Option (Int × List Char) :=
  let (negative, chars) :=
    match chars with
    | '-' :: rest => (true, rest)
    | '+' :: rest => (false, rest)
    | _ => (false, chars)
  match chars.span Char.isDigit with
  | ([], _) => none
  | (digits, rest) =>
      let value : Int := digitsValue digits
      some (if negative then -value else value, rest)

/-- The number `digits * 10 ^ exponent` while its digits are read. -/
structure Significand where
  digits : Nat := 0
  exponent : Int := 0
  /-- Some digit did not fit into a machine word. -/
  full : Bool := false

namespace Significand

/-- Whether a further digit fits into a machine word. -/
def fits (number : Significand) (digit : Char) : Bool :=
  decide (number.digits * 10 + (digit.toNat - 48) < Number.wordRange)

/-- Append a digit in front of the point. Once one did not fit, the others only
count. -/
def pushWhole (number : Significand) (digit : Char) : Significand :=
  if !number.full && number.fits digit then
    { number with digits := number.digits * 10 + (digit.toNat - 48) }
  else { number with exponent := number.exponent + 1, full := true }

/-- Append a digit behind the point. Once one did not fit, the others are
ignored. -/
def pushFraction (number : Significand) (digit : Char) : Significand :=
  if !number.full && number.fits digit then
    { number with
      digits := number.digits * 10 + (digit.toNat - 48)
      exponent := number.exponent - 1 }
  else { number with full := true }

/-- The number as an integer if it is one, and not a negative one beyond the
signed machine words. -/
def toJson (number : Significand) (negative : Bool) : Json :=
  if number.full ||
      (negative && (number.digits = 0 || Number.signedRange < number.digits))
  then .decimal negative number.digits number.exponent
  else .int (if negative then -(number.digits : Int) else number.digits)

end Significand

/-- Read an unsigned number. -/
def readMagnitude? (negative : Bool) (chars : List Char) :
    Option (Json × List Char) :=
  match chars.span Char.isDigit with
  | ([], _) => none
  | (digits, rest) =>
      if digits.length ≠ 1 && digits.head? = some '0' then none
      else
        let whole : Significand := digits.foldl Significand.pushWhole {}
        let read? : Option (Significand × Bool × List Char) :=
          match rest with
          | '.' :: rest =>
              match rest.span Char.isDigit with
              | ([], _) => none
              | (digits, rest) =>
                  some (digits.foldl Significand.pushFraction
                    { whole with full := false }, true, rest)
          | _ => some (whole, false, rest)
        match read? with
        | none => none
        | some (number, hasPoint, rest) =>
            match rest with
            | 'e' :: rest | 'E' :: rest =>
                (readExponent? rest).map fun (exponent, rest) =>
                  (.decimal negative number.digits (number.exponent + exponent), rest)
            | rest =>
                if hasPoint then
                  some (.decimal negative number.digits number.exponent, rest)
                else some (number.toJson negative, rest)

mutual

/-- Read a value. -/
def readValue? : (fuel : Nat) → List Char → Option (Json × List Char)
  | 0, _ => none
  | fuel + 1, chars =>
      match skipSpace chars with
      | 'n' :: 'u' :: 'l' :: 'l' :: rest => some (.null, rest)
      | 't' :: 'r' :: 'u' :: 'e' :: rest => some (.bool true, rest)
      | 'f' :: 'a' :: 'l' :: 's' :: 'e' :: rest => some (.bool false, rest)
      | '"' :: rest =>
          (readString? [] rest).map fun (value, rest) =>
            (.string (String.ofList value), rest)
      | '[' :: rest =>
          match skipSpace rest with
          | ']' :: rest => some (.array [], rest)
          | rest => readItems? fuel [] rest
      | '\x7b' :: rest =>
          match skipSpace rest with
          | '\x7d' :: rest => some (.object [], rest)
          | rest => readFields? fuel [] rest
      | '-' :: rest => readMagnitude? true rest
      | rest => readMagnitude? false rest

/-- Read the items of an array, given those read so far, the last one first. -/
def readItems? : (fuel : Nat) → List Json → List Char → Option (Json × List Char)
  | 0, _, _ => none
  | fuel + 1, read, chars =>
      match readValue? fuel chars with
      | none => none
      | some (item, rest) =>
          match skipSpace rest with
          | ',' :: rest => readItems? fuel (item :: read) rest
          | ']' :: rest => some (.array (item :: read).reverse, rest)
          | _ => none

/-- Read the fields of an object, given those read so far, the last one first. -/
def readFields? :
    (fuel : Nat) → List (String × Json) → List Char → Option (Json × List Char)
  | 0, _, _ => none
  | fuel + 1, read, chars =>
      match skipSpace chars with
      | '"' :: rest =>
          match readString? [] rest with
          | none => none
          | some (name, rest) =>
              match skipSpace rest with
              | ':' :: rest =>
                  match readValue? fuel rest with
                  | none => none
                  | some (value, rest) =>
                      let field := (String.ofList name, value)
                      match skipSpace rest with
                      | ',' :: rest => readFields? fuel (field :: read) rest
                      | '\x7d' :: rest => some (.object (field :: read).reverse, rest)
                      | _ => none
              | _ => none
      | _ => none

end

/-- Read a JSON text. -/
def parse? (text : String) : Option Json :=
  let chars := text.toList
  match readValue? (chars.length + 1) chars with
  | some (value, rest) => if (skipSpace rest).isEmpty then some value else none
  | none => none

end Json
end ScriptAudit
