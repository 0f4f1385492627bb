import ScriptAudit.Datum

/-!
# TOML documents

A TOML document is a table. While it is read, every table remembers how it came to
be, because a table may be defined only once: a header may complete a table that so
far was only named on the way to another one, and keys with dots may only add to
tables that keys with dots have made.
-/

namespace ScriptAudit

/-- A TOML value. -/
inductive Toml
  | string (value : String)
  | integer (value : Int)
  /-- A number that is no integer, as it is shown in messages. -/
  | float (text : String)
  | bool (value : Bool)
  | datetime (text : String)
  | array (items : List Toml)
  | table (fields : List (String × Toml))
  deriving Repr

namespace Toml

/-- The name under which a point in time gives its text. -/
def datetimeField : String := "$__toml_private_datetime"

mutual

/-- The datum of a TOML value. -/
def toDatum : Toml → Datum
  | .string value => .string value
  | .integer value => .integer value
  | .float text => .float text
  | .bool value => .bool value
  | .datetime text => .map [(datetimeField, .string text)]
  | .array items => .sequence (toData items)
  | .table fields => .map (fieldData fields)

/-- The data of the items of an array. -/
def toData : List Toml → List Datum
  | [] => []
  | item :: rest => toDatum item :: toData rest

/-- The data of the fields of a table. -/
def fieldData : List (String × Toml) → List (String × Datum)
  | [] => []
  | field :: rest => fieldDatum field :: fieldData rest

/-- The datum of one field. -/
def fieldDatum : String × Toml → String × Datum
  | (name, value) => (name, toDatum value)

end

/-- How a table came to be. -/
inductive Origin
  /-- It was defined by a header, or is the document or an inline table itself. -/
  | defined
  /-- It was named on the way to the table of a header. -/
  | implied
  /-- It was named on the way to the last part of a key with dots. -/
  | dotted
  deriving Repr, DecidableEq

/-- What a key stands for while a document is read. -/
inductive Item
  | value (value : Toml)
  | table (origin : Origin) (entries : List (String × Item))
  /-- The tables of an array, the last one first. -/
  | tables (rows : List (List (String × Item)))

/-- The keys of a table in the order of the document. -/
abbrev Entries := List (String × Item)

namespace Entries

/-- What a key stands for. -/
def get? (entries : Entries) (name : String) : Option Item :=
  (entries.find? fun entry => entry.1 == name).map (·.2)

/-- Give a key that is there another meaning. -/
def replace (entries : Entries) (name : String) (item : Item) : Entries :=
  entries.map fun entry => if entry.1 == name then (name, item) else entry

/-- Append a key. -/
def append (entries : Entries) (name : String) (item : Item) : Entries :=
  entries ++ [(name, item)]

/-- Change the table that a path leads to. Tables that are missing on the way are
made. A path of dots may not lead through a table that was defined otherwise. -/
def change
    (byDots : Bool)
    (action : Origin → Entries → Option Entries)
    (origin : Origin)
    (entries : Entries) : List String → Option Entries
  | [] => action origin entries
  | name :: rest =>
      match entries.get? name with
      | none =>
          let made : Origin := if byDots then .dotted else .implied
          (change byDots action made [] rest).map fun inner =>
            entries.append name (.table made inner)
      | some (.value _) => none
      | some (.tables []) => none
      | some (.tables (last :: before)) =>
          (change byDots action .defined last rest).map fun inner =>
            entries.replace name (.tables (inner :: before))
      | some (.table kind inner) =>
          if byDots && kind = .defined then none
          else
            (change byDots action kind inner rest).map fun inner =>
              entries.replace name (.table kind inner)

/-- Give a key a value. The key may not be there, and its path may only have dots
where the table around it was made by dots. -/
def define (path : List String) (name : String) (value : Toml) (entries : Entries) :
    Option Entries :=
  change true
    (fun origin entries =>
      if (origin = .dotted) = (path = []) then none
      else if (entries.get? name).isSome then none
      else some (entries.append name (.value value)))
    .defined entries path

/-- Open the table of a header. A table that was only implied is completed, and
takes its place at the header. -/
def openTable (path : List String) (name : String) (entries : Entries) :
    Option Entries :=
  change false
    (fun _ entries =>
      match entries.get? name with
      | none => some (entries.append name (.table .defined []))
      | some (.table .implied inner) =>
          some (Entries.append (entries.filter fun entry => entry.1 != name) name
            (.table .defined inner))
      | some _ => none)
    .defined entries path

/-- Open one more table of an array. -/
def openRow (path : List String) (name : String) (entries : Entries) :
    Option Entries :=
  change false
    (fun _ entries =>
      match entries.get? name with
      | none => some (entries.append name (.tables [[]]))
      | some (.tables rows) => some (entries.replace name (.tables ([] :: rows)))
      | some _ => none)
    .defined entries path

/-- Give a key a value inside of the table that was opened last. -/
def defineIn (current path : List String) (name : String) (value : Toml)
    (entries : Entries) : Option Entries :=
  change false (fun _ entries => define path name value entries)
    .defined entries current

end Entries

mutual

/-- The value that a key stands for in the end. -/
def Item.toToml : Item → Toml
  | .value value => value
  | .table _ entries => .table (entriesToToml entries)
  | .tables rows => .array (rowsToToml rows [])

/-- The fields of a table in the end. -/
def entriesToToml : List (String × Item) → List (String × Toml)
  | [] => []
  | entry :: rest => entryToToml entry :: entriesToToml rest

/-- One field of a table in the end. -/
def entryToToml : String × Item → String × Toml
  | (name, item) => (name, item.toToml)

/-- The tables of an array in the end, put in front of those behind them. -/
def rowsToToml : List (List (String × Item)) → List Toml → List Toml
  | [], behind => behind
  | row :: rest, behind => rowsToToml rest (.table (entriesToToml row) :: behind)

end

end Toml
end ScriptAudit
