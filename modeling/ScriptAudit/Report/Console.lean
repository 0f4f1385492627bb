import ScriptAudit.Report

/-!
# Reports for the console

The findings as plain text, the most serious ones first, then by file. Findings of
the same severity and file keep the order of the report.
-/

namespace ScriptAudit
namespace Report
namespace Console

/-- The mark of a severity, padded to a common width. -/
def mark : Severity → String
  | .high => "[HIGH]  "
  | .medium => "[MEDIUM]"
  | .low => "[LOW]   "

/-- Whether a finding is listed no later than another one. -/
def precedes (first second : Finding) : Bool :=
  decide (second.severity.rank < first.severity.rank) ||
    (first.severity.rank == second.severity.rank && decide (first.file ≤ second.file))

/-- The findings in the order in which they are listed. -/
def listed (findings : List Finding) : List Finding :=
  findings.mergeSort precedes

/-- The lines on one finding. -/
def entry (finding : Finding) : String :=
  match finding.error with
  | some error =>
      "  " ++ mark finding.severity ++ " unreadable file: " ++ error ++ "\n" ++
        "           at " ++ finding.file ++ "\n\n"
  | none =>
      "  " ++ mark finding.severity ++ " " ++ finding.description.getD "-" ++ "\n" ++
        "           at " ++ finding.file ++ ":" ++
        toString (finding.line.getD 0) ++ "\n" ++
        (match finding.excerpt with
        | some excerpt => "           | " ++ excerpt ++ "\n"
        | none => "") ++ "\n"

/-- The lines above the findings. -/
def header (report : Report) : String :=
  "\n  " ++ report.skillPath ++ " (" ++ toString report.filesScanned ++
    " file(s) scanned)\n" ++
    match report.note with
    | some note => "  note: " ++ note ++ "\n"
    | none => ""

/-- The lines on the findings. -/
def body (report : Report) : String :=
  match report.findings with
  | [] => "\n  No security findings detected.\n\n"
  | findings =>
      "\n  " ++ toString findings.length ++ " finding(s) detected:\n\n" ++
        String.join ((listed findings).map entry)

/-- The verdict below the findings. -/
def verdict (report : Report) : String :=
  "  Result: " ++ (if report.passed then "PASS" else "FAIL") ++
    " (high: " ++ toString report.summary.high ++
    ", medium: " ++ toString report.summary.medium ++
    ", low: " ++ toString report.summary.low ++ ")\n\n"

/-- A report as plain text. -/
def render (report : Report) : String :=
  header report ++ body report ++ verdict report

end Console
end Report
end ScriptAudit
