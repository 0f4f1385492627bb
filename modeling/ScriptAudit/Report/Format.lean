import ScriptAudit.Report.Console
import ScriptAudit.Report.Sarif

/-!
# Report formats

The formats in which a report can be delivered. Their names are read in any letter
case.
-/

namespace ScriptAudit
namespace Report

/-- A format of a report. -/
inductive Format
  | json
  | console
  | sarif
  deriving Repr, DecidableEq

namespace Format

/-- The names of formats, in lower case. -/
def names : List (String × Format) :=
  [("json", .json), ("console", .console), ("text", .console), ("sarif", .sarif)]

/-- The format that a name stands for. -/
def ofName? (name : String) : Option Format :=
  let lowered := name.toList.map Char.toLower
  (names.find? fun known => known.1.toList == lowered).map (·.2)

/-- The name of a format. -/
def name : Format → String
  | .json => "json"
  | .console => "console"
  | .sarif => "sarif"

end Format

/-- The text of a report in a format. -/
def render (report : Report) : Format → String
  | .json => report.toJson.pretty
  | .console => Console.render report
  | .sarif => Sarif.render report

end Report
end ScriptAudit
