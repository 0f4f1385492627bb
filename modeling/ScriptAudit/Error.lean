import ScriptAudit.Datum
import ScriptAudit.FileTree

/-!
# Errors

The ways in which a scan can fail as a whole, their wording, and the exit codes
that they lead to.
-/

namespace ScriptAudit

/-- The reasons for which a file cannot be read as text. -/
inductive ReadError
  | os (error : OsError)
  | notText
  deriving Repr, DecidableEq

/-- The wording of a file that cannot be read. -/
def ReadError.message : ReadError → String
  | .os error => error.message
  | .notText => "stream did not contain valid UTF-8"

/-- The reasons for which a configuration is rejected. -/
inductive ConfigError
  | unknownRule (id : String)
  | scriptsDir (given : String)
  deriving Repr, DecidableEq

/-- The wording of a rejected configuration. -/
def ConfigError.message : ConfigError → String
  | .unknownRule id => "unknown rule id '" ++ id ++ "'"
  | .scriptsDir given =>
      "scripts_dir must be a relative path inside the skill, got '" ++ given ++ "'"

/-- The ways in which a scan can fail. -/
inductive AuditError
  /-- There is nothing at the path of the skill. -/
  | targetNotFound (path : String)
  | config (cause : ConfigError)
  | io (cause : ReadError)
  | json (cause : SchemaError)
  /-- The configuration is no TOML document. -/
  | tomlSyntax
  /-- The configuration is a TOML document of another shape. -/
  | tomlSchema (cause : SchemaError)
  deriving Repr, DecidableEq

namespace AuditError

/-- The wording of a failure. Of a TOML error only the kind is fixed. -/
def message : AuditError → String
  | .targetNotFound path => "Path does not exist: " ++ path
  | .config cause => "Configuration error: " ++ cause.message
  | .io cause => "IO error: " ++ cause.message
  | .json cause => "JSON error: " ++ cause.message
  | .tomlSyntax => "TOML parse error"
  | .tomlSchema _ => "TOML parse error"

/-- The exit code of a failure. -/
def exitCode : AuditError → Nat
  | .targetNotFound _ => 1
  | _ => 2

end AuditError
end ScriptAudit
