import ScriptAudit.Language
import ScriptAudit.Pattern.Compiled
import ScriptAudit.Report

/-!
# Events

What a scan reports to the log while it runs.
-/

namespace ScriptAudit

/-- The importance of an event. -/
inductive Level
  | debug
  | info
  | warn
  deriving Repr, DecidableEq

namespace Level

/-- The name of a level. -/
def name : Level → String
  | .debug => "DEBUG"
  | .info => "INFO"
  | .warn => "WARN"

/-- The position of a level among all of them. -/
def rank : Level → Nat
  | .debug => 0
  | .info => 1
  | .warn => 2

end Level

/-- An event of a scan. -/
inductive Event
  /-- The search for a pattern was abandoned. -/
  | gaveUp (source : String) (reason : Pattern.Abort)
  /-- A directory could not be entered. -/
  | cannotWalk (file error : String)
  /-- A file has no extension of a script. -/
  | unsupported (file : String)
  | scanned (file : String) (language : Language) (findings : Nat)
  | cannotRead (file error : String)
  /-- The skill has no directory of scripts. -/
  | nothingToScan (skill : String)
  | completed (skill : String) (report : Report)

namespace Event

/-- The level of an event. -/
def level : Event → Level
  | .gaveUp .. => .warn
  | .cannotWalk .. => .warn
  | .unsupported _ => .debug
  | .scanned .. => .debug
  | .cannotRead .. => .warn
  | .nothingToScan _ => .info
  | .completed .. => .info

/-- What an event says, without its level. -/
def detail : Event → String
  | .gaveUp source reason =>
      "pattern evaluation aborted, treating line as a match pattern=" ++
        Text.quote source ++ " error=" ++ reason.message
  | .cannotWalk file error =>
      "cannot walk entry, skipping file=" ++ file ++ " error=" ++ error
  | .unsupported file => "unsupported file type, skipping file=" ++ file
  | .scanned file language findings =>
      "scanned file=" ++ file ++ " language=" ++ language.name ++
        " findings=" ++ toString findings
  | .cannotRead file error => "cannot read file file=" ++ file ++ " error=" ++ error
  | .nothingToScan skill => "no scripts directory, nothing to scan skill=" ++ skill
  | .completed skill report =>
      "scan complete skill=" ++ skill ++ " files=" ++ toString report.filesScanned ++
        " high=" ++ toString report.summary.high ++
        " medium=" ++ toString report.summary.medium ++
        " low=" ++ toString report.summary.low ++
        " passed=" ++ (if report.passed then "true" else "false")

/-- The line of an event in the log. -/
def text (event : Event) : String :=
  event.level.name ++ " " ++ event.detail

/-- The lines of the log at a level and above. -/
def logLines (level : Level) (events : List Event) : List String :=
  (events.filter fun event => decide (level.rank ≤ event.level.rank)).map text

end Event
end ScriptAudit
