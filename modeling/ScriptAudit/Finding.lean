import ScriptAudit.Severity
import ScriptAudit.Text.Line

/-!
# Findings

A finding reports a rule that matched a line, or a file or directory that could not
be read.
-/

namespace ScriptAudit

/-- One entry of a report. -/
structure Finding where
  /-- The path of the file, as seen from the skill. -/
  file : String
  /-- The number of the line, counted from one. -/
  line : Option Nat
  /-- What the rule that matched looks for. -/
  description : Option String
  /-- Why the file could not be read. -/
  error : Option String
  severity : Severity
  /-- The start of the line that matched. -/
  excerpt : Option String
  /-- The rule that matched. It is no part of the written report. -/
  ruleId : Option String
  deriving Repr, DecidableEq

namespace Finding

/-- A rule that matched a line. -/
def matched
    (file : String)
    (line : Nat)
    (ruleId description : String)
    (severity : Severity)
    (source : List Char) : Finding where
  file := file
  line := some line
  description := some description
  error := none
  severity := severity
  excerpt := some (Text.excerpt source)
  ruleId := some ruleId

/-- A file or directory that could not be read. -/
def unreadable (file error : String) : Finding where
  file := file
  line := none
  description := none
  error := some error
  severity := .low
  excerpt := none
  ruleId := none

end Finding
end ScriptAudit
