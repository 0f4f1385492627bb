import ScriptAudit.Text.Quoted

/-!
# JSON values

JSON values and their indented text. Fields are written in the order in which they
are given.
-/

namespace ScriptAudit

/-- A JSON value. -/
inductive Json
  | null
  | bool (value : Bool)
  | int (value : Int)
  /-- The number `digits * 10 ^ exponent` or its negative, written with a point or
  an exponent. -/
  | decimal (negative : Bool) (digits : Nat) (exponent : Int)
  | string (value : String)
  | array (items : List Json)
  | object (fields : List (String × Json))
  deriving Repr

namespace Json

/-- A code of four hexadecimal digits. -/
def hexCode (value : Nat) : List Char :=
  let digits := Text.hexDigits value
  List.replicate (4 - digits.length) '0' ++ digits

/-- A character inside of a string. -/
def escapeChar (char : Char) : List Char :=
  if char = '"' then ['\\', '"']
  else if char = '\\' then ['\\', '\\']
  else if char = '\n' then ['\\', 'n']
  else if char = '\r' then ['\\', 'r']
  else if char = '\t' then ['\\', 't']
  else if char = '\x08' then ['\\', 'b']
  else if char = '\x0c' then ['\\', 'f']
  else if char.toNat < 32 then '\\' :: 'u' :: hexCode char.toNat
  else [char]

/-- A string between quotes. -/
def stringText (value : String) : List Char :=
  '"' :: value.toList.flatMap escapeChar ++ ['"']

/-- An integer in decimal digits. -/
def intText (value : Int) : List Char :=
  match value with
  | .ofNat magnitude => Nat.toDigits 10 magnitude
  | .negSucc predecessor => '-' :: Nat.toDigits 10 (predecessor + 1)

/-- The text of a number with a point or an exponent. -/
def decimalText (negative : Bool) (digits : Nat) (exponent : Int) : List Char :=
  (if negative then ['-'] else []) ++ Nat.toDigits 10 digits ++
    'e' :: intText exponent

/-- The white space in front of a line at a depth. -/
def indentation (depth : Nat) : List Char :=
  List.replicate (2 * depth) ' '

/-- Texts with commas between them, one on a line. -/
def separated (depth : Nat) : List (List Char) → List Char
  | [] => []
  | [last] => indentation depth ++ last
  | text :: rest => indentation depth ++ text ++ ',' :: '\n' :: separated depth rest

/-- Texts between brackets that stand at a depth. -/
def block (depth : Nat) (opening closing : Char) : List (List Char) → List Char
  | [] => [opening, closing]
  | texts =>
      opening :: '\n' :: separated (depth + 1) texts ++
        '\n' :: indentation depth ++ [closing]

mutual

/-- The indented text of a value that stands at a depth. -/
def prettyAt (depth : Nat) : Json → List Char
  | .null => ['n', 'u', 'l', 'l']
  | .bool true => ['t', 'r', 'u', 'e']
  | .bool false => ['f', 'a', 'l', 's', 'e']
  | .int value => intText value
  | .decimal negative digits exponent => decimalText negative digits exponent
  | .string value => stringText value
  | .array items => block depth '[' ']' (prettyItems (depth + 1) items)
  | .object fields => block depth '\x7b' '\x7d' (prettyFields (depth + 1) fields)

/-- The indented texts of the items of an array. -/
def prettyItems (depth : Nat) : List Json → List (List Char)
  | [] => []
  | item :: rest => prettyAt depth item :: prettyItems depth rest

/-- The indented texts of the fields of an object. -/
def prettyFields (depth : Nat) : List (String × Json) → List (List Char)
  | [] => []
  | field :: rest => prettyField depth field :: prettyFields depth rest

/-- The indented text of one field. -/
def prettyField (depth : Nat) : String × Json → List Char
  | (name, value) => stringText name ++ ':' :: ' ' :: prettyAt depth value

end

/-- The indented text of a value. -/
def pretty (value : Json) : String :=
  String.ofList (prettyAt 0 value)

/-- The value of a field. -/
def field? (value : Json) (name : String) : Option Json :=
  match value with
  | .object fields => (fields.reverse.find? fun field => field.1 == name).map (·.2)
  | _ => none

end Json
end ScriptAudit
