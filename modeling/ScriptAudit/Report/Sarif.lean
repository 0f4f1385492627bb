import ScriptAudit.Report

/-!
# SARIF logs

A report as a SARIF 2.1.0 log: one result for every finding, and one rule for every
rule id that the results use. The fields of every object are in increasing order of
their names.
-/

namespace ScriptAudit
namespace Report
namespace Sarif

/-- The rule id of findings that no rule has caused. -/
def readErrorId : String := "SG-READ"

/-- The rule id of a finding in the log. -/
def ruleId (finding : Finding) : String :=
  finding.ruleId.getD readErrorId

/-- The level that stands for a severity. -/
def level : Severity → String
  | .high => "error"
  | .medium => "warning"
  | .low => "note"

/-- Findings by their rule ids in increasing order, each id with the first finding
that has it. -/
def insertRule (rules : List (String × Finding)) (finding : Finding) :
    List (String × Finding) :=
  match rules with
  | [] => [(ruleId finding, finding)]
  | (id, first) :: rest =>
      if ruleId finding < id then (ruleId finding, finding) :: (id, first) :: rest
      else if ruleId finding = id then (id, first) :: rest
      else (id, first) :: insertRule rest finding

/-- The rules that the results use. -/
def rules (findings : List Finding) : List (String × Finding) :=
  findings.foldl insertRule []

/-- The description of a rule. -/
def ruleJson (id : String) (finding : Finding) : Json :=
  let name := finding.description.getD "unreadable file"
  .object
    [("defaultConfiguration", .object [("level", .string (level finding.severity))]),
      ("id", .string id),
      ("name", .string name),
      ("shortDescription", .object [("text", .string name)])]

/-- A path with slashes only. -/
def uri (file : String) : String :=
  String.ofList (file.toList.map fun char => if char = '\\' then '/' else char)

/-- What a result says. -/
def message (finding : Finding) : String :=
  (finding.error <|> finding.description).getD ""

/-- The part of a file that a finding is about, if it has a line. -/
def regionFields (finding : Finding) : List (String × Json) :=
  match finding.line with
  | none => []
  | some line =>
      [("region", .object
        (Finding.optionalField "snippet" (fun text => .object [("text", .string text)])
            finding.excerpt ++
          [("startLine", .int line)]))]

/-- The result of a finding. -/
def resultJson (finding : Finding) : Json :=
  .object
    [("level", .string (level finding.severity)),
      ("locations", .array
        [.object
          [("physicalLocation", .object
            (("artifactLocation", .object [("uri", .string (uri finding.file))]) ::
              regionFields finding))]]),
      ("message", .object [("text", .string (message finding))]),
      ("ruleId", .string (ruleId finding))]

/-- The name of the tool in the log. -/
def toolName : String := "skillgate"

/-- The version of the tool. -/
def toolVersion : String := "0.1.0"

/-- The address of the schema of the log. -/
def schemaAddress : String :=
  "https://docs.oasis-open.org/sarif/sarif/v2.1.0/errata01/os/schemas/sarif-schema-2.1.0.json"

/-- A report as a SARIF log. -/
def log (report : Report) : Json :=
  .object
    [("$schema", .string schemaAddress),
      ("runs", .array
        [.object
          [("automationDetails",
              .object [("id", .string (toolName ++ "/" ++ report.skillPath))]),
            ("results", .array (report.findings.map resultJson)),
            ("tool", .object
              [("driver", .object
                [("name", .string toolName),
                  ("rules", .array
                    ((rules report.findings).map fun rule => ruleJson rule.1 rule.2)),
                  ("semanticVersion", .string toolVersion),
                  ("version", .string toolVersion)])])]]),
      ("version", .string "2.1.0")]

/-- The text of a SARIF log. -/
def render (report : Report) : String :=
  (log report).pretty

end Sarif
end Report
end ScriptAudit
