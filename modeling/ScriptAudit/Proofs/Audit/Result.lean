import ScriptAudit.Audit
import ScriptAudit.Proofs.Catalog.Listing
import ScriptAudit.Proofs.Scan.Accounting

/-!
# When an audit succeeds

An audit succeeds exactly when its skill exists and it switches off built-in rules
only. Its report is then the one on what a scan from the directory of scripts
collects, or the one on a skill without that directory.
-/

namespace ScriptAudit

/-- A report rejects exactly when one of its findings has high severity. -/
theorem Report.aggregate_passed_eq_false_iff
    {root : Path}
    {filesScanned : Nat}
    {findings : List Finding} :
    (aggregate root filesScanned findings).passed = false ↔
      ∃ finding ∈ findings, finding.severity = .high := by
  simp [aggregate, Summary.tally, Summary.count, List.countP_eq_zero]

namespace Audit

variable {tree : FileTree} {target : Path} {config : Config} {report : Report}

/-- The path of the directory of scripts. -/
def scriptsPath (target : Path) (scriptsDir : String) : Path :=
  target.join (Path.ofString scriptsDir)

/-- What a scan from the directory of scripts collects. -/
def harvest (tree : FileTree) (target : Path) (config : Config) : Scan.Harvest :=
  Scan.directory tree ⟨config.disabled⟩ target (scriptsPath target config.scriptsDir)

/-- The report on a skill whose rules are all known. -/
def reportOn (tree : FileTree) (target : Path) (config : Config) : Report :=
  if tree.isDirectory (scriptsPath target config.scriptsDir) then
    .aggregate target (harvest tree target config).filesScanned
      (harvest tree target config).findings
  else .nothingToScan target (absentNote config.scriptsDir)

theorem reportOn_of_isDirectory
    (config : Config)
    (isDirectory : tree.isDirectory (scriptsPath target config.scriptsDir) = true) :
    reportOn tree target config =
      .aggregate target (harvest tree target config).filesScanned
        (harvest tree target config).findings :=
  if_pos isDirectory

theorem reportOn_of_not_isDirectory
    (config : Config)
    (noDirectory : tree.isDirectory (scriptsPath target config.scriptsDir) = false) :
    reportOn tree target config = .nothingToScan target (absentNote config.scriptsDir) :=
  if_neg (by simp [noDirectory])

/-- An audit succeeds exactly when the skill exists and every rule that is switched
off is built in. -/
theorem result_eq_ok_iff :
    (withConfig tree target config).result = .ok report ↔
      tree.pathExists target = true ∧
        (∀ id ∈ config.disabled, id ∈ Catalog.builtinIds) ∧
        report = reportOn tree target config := by
  unfold withConfig
  cases targetExists : tree.pathExists target with
  | false => simp
  | true =>
      cases ruled : RuleSet.without config.disabled with
      | error error =>
          have unknown : ¬ ∀ id ∈ config.disabled, id ∈ Catalog.builtinIds :=
              fun known => by
            rw [RuleSet.without_eq_ok_iff.mpr ⟨known, rfl⟩] at ruled
            cases ruled
          simp [unknown]
      | ok rules =>
          obtain ⟨known, rfl⟩ := RuleSet.without_eq_ok_iff.mp ruled
          simp only [Bool.not_true, Bool.false_eq_true, if_false, true_and]
          rw [and_iff_right known, eq_comm, reportOn, harvest, scriptsPath]
          cases tree.isDirectory (target.join (Path.ofString config.scriptsDir)) <;> simp

/-- An audit of a skill that exists gives a report when all rules that it switches
off are built in. -/
theorem result_eq_reportOn
    (targetExists : tree.pathExists target = true)
    (known : ∀ id ∈ config.disabled, id ∈ Catalog.builtinIds) :
    (withConfig tree target config).result = .ok (reportOn tree target config) :=
  result_eq_ok_iff.mpr ⟨targetExists, known, rfl⟩

theorem reportOn_summary (tree : FileTree) (target : Path) (config : Config) :
    (reportOn tree target config).summary =
      Summary.tally (reportOn tree target config).findings := by
  unfold reportOn
  split <;> rfl

/-- A skill passes exactly when no finding of its report has high severity. -/
theorem reportOn_passed_iff :
    (reportOn tree target config).passed = true ↔
      ∀ finding ∈ (reportOn tree target config).findings, finding.severity ≠ .high := by
  unfold reportOn
  split <;>
    simp [Report.nothingToScan, Report.aggregate, Summary.tally, Summary.count,
      List.countP_eq_zero]

end Audit

/-! ## A skill to try results on -/

/-- A node at a location that is given as text. -/
def Node.ofText (location : List String) (entry : Entry) (locked : Bool) : Node :=
  ⟨location.map Path.ofString, entry, locked⟩

namespace Sample

/-- The skill. -/
def skill : Node := .ofText ["skill"] .directory false

/-- Its directory of scripts. -/
def scripts : Node := .ofText ["skill", "scripts"] .directory false

/-- A directory of further scripts. -/
def library : Node := .ofText ["skill", "scripts", "lib"] .directory false

/-- A script in that directory. -/
def clean : Node :=
  .ofText ["skill", "scripts", "lib", "clean.sh"]
    (.file (Path.ofString "rm -rf /\n")) false

/-- A script. -/
def run : Node :=
  .ofText ["skill", "scripts", "run.py"] (.file (Path.ofString "eval(text)\n")) false

/-- A link to the script. -/
def shortcut : Node :=
  .ofText ["skill", "scripts", "alias.py"] (.link (Path.ofString "run.py")) false

/-- A script that is locked. -/
def secret : Node := .ofText ["skill", "scripts", "secret.js"] (.file []) true

/-- A tree with nothing but the skill. -/
def tree : FileTree where
  nodes := [skill, scripts, library, clean, run, shortcut, secret]
  working := []
  distinct := by decide
  rooted := by decide

/-- The path of the skill. -/
def target : Path := Path.ofString "skill"

/-- A configuration with two rules switched off. -/
def config : Config := ⟨"scripts", ["SH-102", "PY-001"]⟩

open FileTree (steps top linkLimit)

theorem get?_skill :
    tree.get? (top.location ++ [Path.ofString "skill"]) = some skill := by
  decide

theorem target_leads : tree.Leads linkLimit top (steps target) [[]] skill := by
  have names : steps target = [Path.ofString "skill"] := by decide
  rw [names]
  refine ⟨linkLimit, .move (.enter rfl rfl (by decide) get?_skill ?_) (.rest _)⟩
  simp [skill, Node.ofText]

theorem target_exists : tree.pathExists target = true :=
  FileTree.pathExists_iff.mpr
    ⟨skill, FileTree.status_eq_ok_iff.mpr ⟨by decide, top, _, rfl, target_leads⟩⟩

theorem config_known : ∀ id ∈ config.disabled, id ∈ Catalog.builtinIds := by decide

end Sample
end ScriptAudit
