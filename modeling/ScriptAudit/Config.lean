import ScriptAudit.Error
import ScriptAudit.Toml.Reader

/-!
# Configuration

The configuration says in which directory of a skill its scripts are and which
rules are switched off. It is only read from a file that is named explicitly, never
from the skill itself.
-/

namespace ScriptAudit

/-- The configuration of a scan. -/
structure Config where
  /-- The directory of the skill that holds its scripts. -/
  scriptsDir : String := "scripts"
  /-- The ids of the rules that are switched off. -/
  disabled : List String := []
  deriving Repr, DecidableEq

namespace Config

/-- The shape of the section on scanning. -/
def scanShape : RecordShape where
  name := "ScanSettings"
  fields := [.of "scripts_dir" true Datum.toText]
  closed := true

/-- Decode the section on scanning. -/
def scanOfDatum (format : DataFormat) (datum : Datum) : Decoded String := do
  let given ← scanShape.fieldsOf format datum
  withDefault given "scripts_dir" Datum.toText "scripts"

/-- The shape of the section on rules. -/
def rulesShape : RecordShape where
  name := "RuleSettings"
  fields := [.of "disabled" true (Datum.toList Datum.toText)]
  closed := true

/-- Decode the section on rules. -/
def rulesOfDatum (format : DataFormat) (datum : Datum) : Decoded (List String) := do
  let given ← rulesShape.fieldsOf format datum
  withDefault given "disabled" (Datum.toList Datum.toText) []

/-- The shape of a configuration. -/
def shape (format : DataFormat) : RecordShape where
  name := "Config"
  fields :=
    [.of "scan" true (scanOfDatum format), .of "rules" true (rulesOfDatum format)]
  closed := true

/-- Decode a configuration. -/
def ofDatum (format : DataFormat) (datum : Datum) : Decoded Config := do
  let given ← (shape format).fieldsOf format datum
  let scriptsDir ← withDefault given "scan" (scanOfDatum format) "scripts"
  let disabled ← withDefault given "rules" (rulesOfDatum format) []
  .ok ⟨scriptsDir, disabled⟩

/-- Whether a directory of scripts lies inside of the skill. -/
def staysInside (scriptsDir : String) : Bool :=
  let path := Path.ofString scriptsDir
  !path.isEmpty && !path.isAbsolute && !path.components.contains .parent

/-- Reject a directory of scripts that may lie outside of the skill. -/
def validate (config : Config) : Except AuditError Config :=
  if staysInside config.scriptsDir then .ok config
  else .error (.config (.scriptsDir config.scriptsDir))

/-- Read a configuration from the text of a TOML document. -/
def ofText (chars : List Char) : Except AuditError Config :=
  match Toml.parse? chars with
  | none => .error .tomlSyntax
  | some fields =>
      match ofDatum .toml (Toml.toDatum (.table fields)) with
      | .error cause => .error (.tomlSchema cause)
      | .ok config => config.validate

/-- Read a configuration from the octets of a file. -/
def ofOctets (octets : Text.Octets) : Except AuditError Config :=
  match Text.decode? octets with
  | none => .error (.io .notText)
  | some chars => ofText chars

/-- Load the configuration file at a path. -/
def load (tree : FileTree) (path : Path) : Except AuditError Config :=
  match tree.read path with
  | .error error => .error (.io (.os error))
  | .ok octets => ofOctets octets

/-- A configuration file to start from. -/
def starter : String :=
  "# skillgate configuration\n\n" ++
    "[scan]\n" ++
    "# Subdirectory of the skill that is scanned.\n" ++
    "scripts_dir = \"scripts\"\n\n" ++
    "[rules]\n" ++
    "# Rule ids to skip (see `skillgate --list-rules`).\n" ++
    "# disabled = [\"SH-102\"]\n"

end Config
end ScriptAudit
