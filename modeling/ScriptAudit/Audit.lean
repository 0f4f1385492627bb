import ScriptAudit.Config
import ScriptAudit.Report.Format
import ScriptAudit.Scan

/-!
# Auditing a skill

An audit scans the directory of scripts of a skill and reports on it. It fails only
for reasons that lie outside of that directory: an unusable configuration, a skill
that does not exist, or an unknown rule.
-/

namespace ScriptAudit

/-- The result of an audit together with its events. -/
structure Outcome where
  result : Except AuditError Report
  events : List Event

namespace Audit

/-- The note on a skill without a directory of scripts. -/
def absentNote (scriptsDir : String) : String :=
  "No " ++ scriptsDir ++ "/ directory found"

/-- Audit a skill with a configuration. -/
def withConfig (tree : FileTree) (target : Path) (config : Config) : Outcome :=
  if !tree.pathExists target then
    ⟨.error (.targetNotFound target.display), []⟩
  else
    match RuleSet.without config.disabled with
    | .error error => ⟨.error error, []⟩
    | .ok rules =>
        let start := target.join (Path.ofString config.scriptsDir)
        if !tree.isDirectory start then
          ⟨.ok (.nothingToScan target (absentNote config.scriptsDir)),
            [.nothingToScan target.display]⟩
        else
          let harvest := Scan.directory tree rules target start
          let report := Report.aggregate target harvest.filesScanned harvest.findings
          ⟨.ok report, harvest.events ++ [.completed target.display report]⟩

/-- Audit a skill with the configuration file at a path, if one is given. -/
def run (tree : FileTree) (target : Path) (configPath : Option Path) : Outcome :=
  match configPath with
  | none => withConfig tree target {}
  | some path =>
      match Config.load tree path with
      | .error error => ⟨.error error, []⟩
      | .ok config => withConfig tree target config

end Audit
end ScriptAudit
