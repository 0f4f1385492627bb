import ScriptAudit.Proofs.Audit.Failure
import ScriptAudit.Proofs.Scan.Spelling

/-!
# Spellings of a target

Slashes too many and dots that are not the first component make no difference to an
audit. For all spellings of a target that lead to it the audit fails with one error, or
the reports are the same up to the path that is quoted where a directory cannot be
entered.
-/

namespace ScriptAudit

open Text (Octets)

/-- Two reports that are the same up to a relation between their findings. -/
structure Report.SameUpTo
    (related : Finding → Finding → Prop)
    (first second : Report) : Prop where
  skillPath_eq : first.skillPath = second.skillPath
  filesScanned_eq : first.filesScanned = second.filesScanned
  summary_eq : first.summary = second.summary
  passed_eq : first.passed = second.passed
  note_eq : first.note = second.note
  findings : List.Forall₂ related first.findings second.findings

/-- The severities of findings determine how many there are of each. -/
theorem Summary.tally_congr
    {first second : List Finding}
    (same : List.Forall₂ (fun finding other => finding.severity = other.severity)
      first second) :
    tally first = tally second := by
  have sameCount : ∀ severity, count severity first = count severity second := by
    intro severity
    induction same with
    | nil => rfl
    | cons head _ inductionHypothesis =>
        simp only [count, List.countP_cons, head] at inductionHypothesis ⊢
        rw [inductionHypothesis]
  simp only [tally, sameCount]

theorem Report.displayRoot_congr
    {first second : Path}
    (same : first.components = second.components) :
    displayRoot first = displayRoot second := by
  rw [displayRoot, displayRoot, same]

namespace Audit

variable {tree : FileTree} {first second : Path} {config : Config}

/-- What is below the directory of scripts is seen alike from two spellings of a target.
-/
theorem seenAlike_of_respells
    (respells : tree.Respells first second)
    (scriptsDir : String)
    (names : List Octets)
    (areNames : ∀ name ∈ names, Path.IsName name) :
    Scan.SeenAlike tree first second ((scriptsPath first scriptsDir).descend names)
      ((scriptsPath second scriptsDir).descend names) := by
  have nonempty := FileTree.ne_nil_of_pathExists respells.first_exists
  have otherNonempty := FileTree.ne_nil_of_pathExists respells.second_exists
  unfold scriptsPath
  cases absolute : (Path.ofString scriptsDir).isAbsolute with
  | true =>
      rw [Path.join, Path.join, absolute]
      exact ⟨rfl, rfl, Path.relativeTo_congr respells.components_eq _⟩
  | false =>
      rw [Path.join_eq_append absolute, Path.join_eq_append absolute,
        Path.descend_stem_append nonempty areNames,
        Path.descend_stem_append otherNonempty areNames]
      refine ⟨respells.status_eq _, Language.classify?_congr ?_, ?_⟩
      · rw [Path.components_stem_append nonempty,
          Path.components_stem_append otherNonempty, respells.components_eq]
      · rw [Path.relativeTo_stem_append nonempty,
          Path.relativeTo_stem_append otherNonempty]

/-- The reports on two spellings of a target are the same up to wordings. -/
theorem reportOn_sameUpTo
    (respells : tree.Respells first second)
    (config : Config) :
    (reportOn tree first config).SameUpTo
      (Scan.Agrees tree (scriptsPath first config.scriptsDir)
        (scriptsPath second config.scriptsDir))
      (reportOn tree second config) := by
  have samePath := Report.displayRoot_congr respells.components_eq
  have sameStatus : tree.status (scriptsPath first config.scriptsDir) =
      tree.status (scriptsPath second config.scriptsDir) :=
    (seenAlike_of_respells respells config.scriptsDir [] (by simp)).status_eq
  have sameDirectory : tree.isDirectory (scriptsPath first config.scriptsDir) =
      tree.isDirectory (scriptsPath second config.scriptsDir) := by
    rw [FileTree.isDirectory, FileTree.isDirectory, sameStatus]
  cases found : tree.isDirectory (scriptsPath first config.scriptsDir) with
  | false =>
      rw [reportOn_of_not_isDirectory config found,
        reportOn_of_not_isDirectory config (sameDirectory ▸ found)]
      exact ⟨samePath, rfl, rfl, rfl, rfl, .nil⟩
  | true =>
      rw [reportOn_of_isDirectory config found,
        reportOn_of_isDirectory config (sameDirectory ▸ found)]
      obtain ⟨base, begins, _⟩ := FileTree.isDirectory_eq_true_iff.mp found
      have collected := Scan.directory_agrees begins
        (seenAlike_of_respells respells config.scriptsDir) ⟨config.disabled⟩
      have sameSummary := Summary.tally_congr
        (collected.findings.imp fun _ _ agrees => agrees.severity_eq)
      exact ⟨samePath, collected.filesScanned_eq, sameSummary,
        congrArg (fun summary : Summary => decide (summary.high = 0)) sameSummary, rfl,
        collected.findings⟩

end Audit

/-! ## Another spelling of the sample -/

namespace Sample

open FileTree (steps top linkLimit)

/-- The path of the skill with slashes too many and a dot. -/
def respelled : Path := Path.ofString "skill//./"

theorem respelled_exists : tree.pathExists respelled = true := by
  have names : steps respelled = [Path.ofString "skill", Path.dot, []] := by decide
  have leads : tree.Leads linkLimit top (steps respelled)
      [[], skill.location, skill.location] skill := by
    rw [names]
    refine ⟨linkLimit, .move (.enter rfl rfl (by decide) get?_skill ?_)
      (.move (.stay rfl rfl) (.move (.idle rfl) (.rest _)))⟩
    simp [skill, Node.ofText]
  exact FileTree.pathExists_iff.mpr
    ⟨skill, FileTree.status_eq_ok_iff.mpr ⟨by decide, top, _, rfl, leads⟩⟩

end Sample

/-! ## Audits of two spellings -/

namespace Audit

/-- Audits of two spellings of a target both fail with the same error, or both give a
report and the reports are the same up to the paths that are quoted where a directory
cannot be entered. -/
theorem spelling_makes_no_difference
    (tree : FileTree)
    (first second : Path)
    (config : Config)
    (same : first.components = second.components)
    (firstExists : tree.pathExists first = true)
    (secondExists : tree.pathExists second = true) :
    let scripts := Path.ofString config.scriptsDir
    (∃ error, (withConfig tree first config).result = .error error ∧
      (withConfig tree second config).result = .error error) ∨
    ∃ report otherReport, (withConfig tree first config).result = .ok report ∧
      (withConfig tree second config).result = .ok otherReport ∧
      report.SameUpTo (Scan.Agrees tree (first.join scripts) (second.join scripts))
        otherReport := by
  intro scripts
  cases result : (withConfig tree first config).result with
  | error error =>
      rcases withConfig_eq_error_iff.mp result with ⟨absent, _⟩ | ⟨_, refused⟩
      · rw [firstExists] at absent
        cases absent
      · exact .inl ⟨error, rfl,
          withConfig_eq_error_iff.mpr (.inr ⟨secondExists, refused⟩)⟩
  | ok report =>
      obtain ⟨_, known, rfl⟩ := result_eq_ok_iff.mp result
      exact .inr ⟨_, _, rfl, result_eq_reportOn secondExists known,
        reportOn_sameUpTo ⟨same, firstExists, secondExists⟩ config⟩

theorem spelling_makes_no_difference_sample :
    Sample.target ≠ Sample.respelled ∧
      Sample.target.components = Sample.respelled.components ∧
      Sample.tree.pathExists Sample.target = true ∧
      Sample.tree.pathExists Sample.respelled = true ∧
      ∃ report otherReport,
        (withConfig Sample.tree Sample.target Sample.config).result = .ok report ∧
        (withConfig Sample.tree Sample.respelled Sample.config).result = .ok otherReport ∧
        report.skillPath = otherReport.skillPath ∧ report.summary = otherReport.summary ∧
        report.findings.length = otherReport.findings.length := by
  have same : Sample.target.components = Sample.respelled.components := by decide
  refine ⟨by decide, same, Sample.target_exists, Sample.respelled_exists, ?_⟩
  rcases spelling_makes_no_difference Sample.tree Sample.target
    Sample.respelled Sample.config
    same Sample.target_exists Sample.respelled_exists with
    ⟨error, failed, _⟩ | ⟨report, otherReport, result, otherResult, sameUpTo⟩
  · rw [result_eq_reportOn Sample.target_exists Sample.config_known] at failed
    cases failed
  · exact ⟨report, otherReport, result, otherResult, sameUpTo.skillPath_eq,
      sameUpTo.summary_eq, sameUpTo.findings.length_eq⟩

end Audit
end ScriptAudit
