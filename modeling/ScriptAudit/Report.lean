import ScriptAudit.Datum
import ScriptAudit.Finding
import ScriptAudit.Path

/-!
# Reports

A report gathers the findings of one scan. A skill passes when no finding has high
severity.
-/

namespace ScriptAudit

/-- The number of findings of each severity. -/
structure Summary where
  high : Nat
  medium : Nat
  low : Nat
  deriving Repr, DecidableEq

namespace Summary

/-- Count the findings of a severity. -/
def count (severity : Severity) (findings : List Finding) : Nat :=
  findings.countP fun finding => finding.severity = severity

/-- Count findings by severity. -/
def tally (findings : List Finding) : Summary where
  high := count .high findings
  medium := count .medium findings
  low := count .low findings

/-- The number of all findings. -/
def total (summary : Summary) : Nat :=
  summary.high + summary.medium + summary.low

end Summary

/-- The result of a scan. -/
structure Report where
  /-- The skill that was scanned. -/
  skillPath : String
  /-- The number of scripts that were read. -/
  filesScanned : Nat
  findings : List Finding
  summary : Summary
  /-- Why nothing was scanned. -/
  note : Option String
  passed : Bool
  deriving Repr, DecidableEq

namespace Report

/-- The path of a skill as a report shows it, without anything superfluous. -/
def displayRoot (root : Path) : String :=
  match root.components with
  | [] => "."
  | components => (Path.ofComponents components).display

/-- The report on everything a scan has collected. -/
def aggregate (root : Path) (filesScanned : Nat) (findings : List Finding) : Report :=
  let summary := Summary.tally findings
  { skillPath := displayRoot root
    filesScanned := filesScanned
    findings := findings
    summary := summary
    note := none
    passed := summary.high = 0 }

/-- The report on a skill without anything to scan. -/
def nothingToScan (root : Path) (note : String) : Report :=
  { aggregate root 0 [] with note := some note }

end Report

namespace Severity

/-- The severities by their names. -/
def variants : List (String × Severity) :=
  [("LOW", .low), ("MEDIUM", .medium), ("HIGH", .high)]

end Severity

namespace Finding

/-- The shape of a written finding. -/
def shape : RecordShape where
  name := "Finding"
  fields :=
    [.of "file" false Datum.toText,
      .of "line" true (Datum.toOption Datum.toCount),
      .of "pattern" true (Datum.toOption Datum.toText),
      .of "error" true (Datum.toOption Datum.toText),
      .of "severity" false (Datum.toVariant Severity.variants),
      .of "content" true (Datum.toOption Datum.toText)]
  closed := false

/-- Decode a written finding, which does not name its rule. -/
def ofDatum (format : DataFormat) (datum : Datum) : Decoded Finding := do
  let given ← shape.fieldsOf format datum
  let file ← required given "file" Datum.toText
  let line ← withDefault given "line" (Datum.toOption Datum.toCount) none
  let description ← withDefault given "pattern" (Datum.toOption Datum.toText) none
  let error ← withDefault given "error" (Datum.toOption Datum.toText) none
  let severity ← required given "severity" (Datum.toVariant Severity.variants)
  let excerpt ← withDefault given "content" (Datum.toOption Datum.toText) none
  .ok ⟨file, line, description, error, severity, excerpt, none⟩

/-- A field that is only written when it has a value. -/
def optionalField (name : String) (write : α → Json) : Option α → List (String × Json)
  | none => []
  | some value => [(name, write value)]

/-- The written form of a finding. -/
def toJson (finding : Finding) : Json :=
  .object
    ([("file", .string finding.file)] ++
      optionalField "line" (fun line : Nat => .int line) finding.line ++
      optionalField "pattern" .string finding.description ++
      optionalField "error" .string finding.error ++
      [("severity", .string finding.severity.name)] ++
      optionalField "content" .string finding.excerpt)

end Finding

namespace Summary

/-- The shape of a written summary. -/
def shape : RecordShape where
  name := "Summary"
  fields :=
    [.of "high" false Datum.toCount,
      .of "medium" false Datum.toCount,
      .of "low" false Datum.toCount]
  closed := false

/-- Decode a written summary. -/
def ofDatum (format : DataFormat) (datum : Datum) : Decoded Summary := do
  let given ← shape.fieldsOf format datum
  let high ← required given "high" Datum.toCount
  let medium ← required given "medium" Datum.toCount
  let low ← required given "low" Datum.toCount
  .ok ⟨high, medium, low⟩

/-- The written form of a summary. -/
def toJson (summary : Summary) : Json :=
  .object
    [("high", .int summary.high),
      ("medium", .int summary.medium),
      ("low", .int summary.low)]

end Summary

namespace Report

/-- The kinds of scans by their names. There is only one. -/
def scanTypes : List (String × Unit) :=
  [("static", ())]

/-- The shape of a written report. -/
def shape (format : DataFormat) : RecordShape where
  name := "ScanReport"
  fields :=
    [.of "skill_path" false Datum.toText,
      .of "scan_type" false (Datum.toVariant scanTypes),
      .of "files_scanned" false Datum.toCount,
      .of "findings" false (Datum.toList (Finding.ofDatum format)),
      .of "summary" false (Summary.ofDatum format),
      .of "note" true (Datum.toOption Datum.toText),
      .of "passed" false Datum.toBool]
  closed := false

/-- Decode a written report. -/
def ofDatum (format : DataFormat) (datum : Datum) : Decoded Report := do
  let given ← (shape format).fieldsOf format datum
  let skillPath ← required given "skill_path" Datum.toText
  let filesScanned ← required given "files_scanned" Datum.toCount
  let findings ← required given "findings" (Datum.toList (Finding.ofDatum format))
  let summary ← required given "summary" (Summary.ofDatum format)
  let note ← withDefault given "note" (Datum.toOption Datum.toText) none
  let passed ← required given "passed" Datum.toBool
  .ok ⟨skillPath, filesScanned, findings, summary, note, passed⟩

/-- The written form of a report. -/
def toJson (report : Report) : Json :=
  .object
    ([("skill_path", .string report.skillPath),
      ("scan_type", .string "static"),
      ("files_scanned", .int report.filesScanned),
      ("findings", .array (report.findings.map Finding.toJson)),
      ("summary", report.summary.toJson)] ++
      Finding.optionalField "note" .string report.note ++
      [("passed", .bool report.passed)])

end Report
end ScriptAudit
