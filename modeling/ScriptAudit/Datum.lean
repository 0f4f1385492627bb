import ScriptAudit.Json
import ScriptAudit.Number.Shortest
import ScriptAudit.Number.Word

/-!
# Data and their shapes

A datum is a value of a data format whose shape is not known yet. Decoding a datum
fails with the first problem met, and the message of a failure says what was found
and what was expected.
-/

namespace ScriptAudit

/-- A value of JSON or TOML. -/
inductive Datum
  | null
  | bool (value : Bool)
  | integer (value : Int)
  /-- A number that is no integer, as it is shown in messages. -/
  | float (text : String)
  | string (value : String)
  | sequence (items : List Datum)
  /-- The fields in the order in which they are visited. -/
  | map (fields : List (String × Datum))
  deriving Repr

/-- The format that a datum comes from. -/
inductive DataFormat
  | json
  | toml
  deriving Repr, DecidableEq

/-- The ways in which a datum does not have the expected shape. -/
inductive SchemaError
  | invalidType (found expected : String)
  | invalidValue (found expected : String)
  | invalidLength (length : Nat) (expected : String)
  | unknownField (name : String) (known : List String)
  | unknownVariant (name : String) (known : List String)
  | missingField (name : String)
  deriving Repr, DecidableEq

/-- A name in a message. -/
def tick (name : String) : String :=
  "`" ++ name ++ "`"

/-- The names that a message offers instead of an unknown one. -/
def offered : List String → String
  | [] => "nothing"
  | [only] => tick only
  | [first, second] => tick first ++ " or " ++ tick second
  | names => "one of " ++ String.intercalate ", " (names.map tick)

/-- The wording of a failure. -/
def SchemaError.message : SchemaError → String
  | .invalidType found expected => "invalid type: " ++ found ++ ", expected " ++ expected
  | .invalidValue found expected =>
      "invalid value: " ++ found ++ ", expected " ++ expected
  | .invalidLength length expected =>
      "invalid length " ++ toString length ++ ", expected " ++ expected
  | .unknownField name known =>
      "unknown field " ++ tick name ++ ", expected " ++ offered known
  | .unknownVariant name known =>
      "unknown variant " ++ tick name ++ ", expected " ++ offered known
  | .missingField name => "missing field " ++ tick name

/-- The result of decoding. -/
abbrev Decoded := Except SchemaError

namespace Datum

/-- What a message calls a datum. -/
def describe : Datum → String
  | .null => "null"
  | .bool true => "boolean `true`"
  | .bool false => "boolean `false`"
  | .integer value => "integer `" ++ toString value ++ "`"
  | .float text => "floating point `" ++ text ++ "`"
  | .string value => "string " ++ Text.quote value
  | .sequence _ => "sequence"
  | .map _ => "map"

/-- A datum where something else was expected. -/
def mismatch (datum : Datum) (expected : String) : Decoded α :=
  .error (.invalidType datum.describe expected)

/-- Decode a string. -/
def toText : Datum → Decoded String
  | .string value => .ok value
  | datum => datum.mismatch "a string"

/-- Decode a truth value. -/
def toBool : Datum → Decoded Bool
  | .bool value => .ok value
  | datum => datum.mismatch "a boolean"

/-- Decode a count, which fits into a machine word. -/
def toCount : Datum → Decoded Nat
  | .integer (.ofNat value) =>
      if value < Number.wordRange then .ok value
      else .error (.invalidValue (describe (.integer value)) "usize")
  | .integer value => .error (.invalidValue (describe (.integer value)) "usize")
  | datum => datum.mismatch "usize"

/-- Decode a value that may be null. -/
def toOption (decode : Datum → Decoded α) : Datum → Decoded (Option α)
  | .null => .ok none
  | datum => (decode datum).map some

/-- Decode the items of a sequence. -/
def toList (decode : Datum → Decoded α) : Datum → Decoded (List α)
  | .sequence items => items.mapM decode
  | datum => datum.mismatch "a sequence"

/-- Decode one of some named values. The name may stand alone, or with nothing
behind it. -/
def toVariant (variants : List (String × α)) (datum : Datum) : Decoded α :=
  let choose (name : String) : Decoded α :=
    match variants.find? fun variant => variant.1 == name with
    | some variant => .ok variant.2
    | none => .error (.unknownVariant name (variants.map (·.1)))
  match datum with
  | .string name => choose name
  | .map [(name, content)] =>
      match choose name, content with
      | .ok value, .null => .ok value
      | .ok _, content => content.mismatch "unit"
      | .error error, _ => .error error
  | .map _ => .error (.invalidValue "map" "map with a single key")
  | datum => datum.mismatch "string or map"

end Datum

/-- One field of a record. -/
structure Field where
  name : String
  /-- Whether the field may be left out. -/
  optional : Bool
  /-- Whether a datum has the shape of the field. -/
  check : Datum → Decoded Unit

/-- A field that decodes with a function. -/
def Field.of (name : String) (optional : Bool) (decode : Datum → Decoded α) : Field where
  name := name
  optional := optional
  check datum := (decode datum).map fun _ => ()

/-- The shape of a record. -/
structure RecordShape where
  name : String
  fields : List Field
  /-- Whether fields that the shape does not name are refused. -/
  closed : Bool

namespace RecordShape

/-- The names of the fields. -/
def names (shape : RecordShape) : List String :=
  shape.fields.map (·.name)

/-- Check the fields that a map gives, in its order. -/
def checkGiven (shape : RecordShape) : List (String × Datum) → Decoded Unit
  | [] => .ok ()
  | (name, datum) :: rest =>
      match shape.fields.find? fun field => field.name == name with
      | some field =>
          match field.check datum with
          | .ok () => shape.checkGiven rest
          | .error error => .error error
      | none =>
          if shape.closed then .error (.unknownField name shape.names)
          else shape.checkGiven rest

/-- Check that a map gives all fields that cannot be left out. -/
def checkComplete (given : List (String × Datum)) : List Field → Decoded Unit
  | [] => .ok ()
  | field :: rest =>
      if field.optional || given.any fun entry => entry.1 == field.name then
        checkComplete given rest
      else .error (.missingField field.name)

/-- Give names to the items of a sequence, in the order of the fields. -/
def nameItems (shape : RecordShape) (index : Nat) :
    List Field → List Datum → Decoded (List (String × Datum))
  | [], _ => .ok []
  | field :: fields, [] =>
      if field.optional then shape.nameItems (index + 1) fields []
      else
        .error (.invalidLength index
          ("struct " ++ shape.name ++ " with " ++
            toString shape.fields.length ++ " elements"))
  | field :: fields, item :: items =>
      match field.check item with
      | .error error => .error error
      | .ok () =>
          (shape.nameItems (index + 1) fields items).map ((field.name, item) :: ·)

/-- The fields of a datum that has the shape, by their names. A sequence gives them
in order; only JSON minds items beyond the last field. -/
def fieldsOf (shape : RecordShape) (format : DataFormat) (datum : Datum) :
    Decoded (List (String × Datum)) :=
  match datum with
  | .map given => do
      shape.checkGiven given
      checkComplete given shape.fields
      .ok given
  | .sequence items => do
      let named ← shape.nameItems 0 shape.fields items
      if format = .json && shape.fields.length < items.length then
        .error (.invalidLength items.length "fewer elements in array")
      else .ok named
  | datum => datum.mismatch ("struct " ++ shape.name)

end RecordShape

/-- Decode a field that was checked to be there. -/
def required (given : List (String × Datum)) (name : String)
    (decode : Datum → Decoded α) : Decoded α :=
  match given.find? fun entry => entry.1 == name with
  | some entry => decode entry.2
  | none => .error (.missingField name)

/-- Decode a field that may be left out. -/
def withDefault (given : List (String × Datum)) (name : String)
    (decode : Datum → Decoded α) (default : α) : Decoded α :=
  match given.find? fun entry => entry.1 == name with
  | some entry => decode entry.2
  | none => .ok default

namespace Json

/-- The number `digits * 10 ^ exponent` or its negative, as messages show it. -/
def floatText (negative : Bool) (digits : Nat) (exponent : Int) : String :=
  let magnitude :=
    match Number.Binary64.ofParts? digits exponent with
    | some number => (Number.shortest .toEven number).compact
    | none => ['i', 'n', 'f']
  String.ofList (if negative then '-' :: magnitude else magnitude)

/-- The fields of an object by their names in increasing order; of two fields with
one name the later one counts. -/
def sortFields (fields : List (String × Datum)) : List (String × Datum) :=
  let latest := fields.reverse.foldl
    (fun kept field =>
      if kept.any fun other => other.1 == field.1 then kept else field :: kept)
    []
  latest.mergeSort fun first second => decide (first.1 ≤ second.1)

mutual

/-- The datum of a JSON value. -/
def toDatum : Json → Datum
  | .null => .null
  | .bool value => .bool value
  | .int value => .integer value
  | .decimal negative digits exponent => .float (floatText negative digits exponent)
  | .string value => .string value
  | .array items => .sequence (toData items)
  | .object fields => .map (sortFields (fieldData fields))

/-- The data of the items of an array. -/
def toData : List Json → List Datum
  | [] => []
  | item :: rest => toDatum item :: toData rest

/-- The data of the fields of an object. -/
def fieldData : List (String × Json) → List (String × Datum)
  | [] => []
  | field :: rest => fieldDatum field :: fieldData rest

/-- The datum of one field. -/
def fieldDatum : String × Json → String × Datum
  | (name, value) => (name, toDatum value)

end

end Json
end ScriptAudit
