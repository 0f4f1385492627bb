import ScriptAudit.Proofs.Audit.Result
import ScriptAudit.Proofs.Scan.Disabling

/-!
# Reports with rules switched off

Switching rules off in a configuration filters the findings of the report that is
given with all rules. Only the ids matter, not their order or how often they are
given, and a skill that passes keeps passing when more rules are switched off.
-/

namespace ScriptAudit

theorem Finding.isKept_iff
    {disabled : List String}
    {finding : Finding} :
    finding.isKept disabled = true ↔ ∀ id ∈ disabled, finding.ruleId ≠ some id := by
  cases rule : finding.ruleId with
  | none => simp [isKept, rule]
  | some id =>
      simp only [isKept, rule, Option.all_some, Bool.not_eq_true', List.contains_eq_mem,
        decide_eq_false_iff_not, ne_eq, Option.some.injEq]
      exact ⟨fun absent other member same => absent (same ▸ member),
        fun differs member => differs id member rfl⟩

/-- Whether a finding is kept depends on which ids are given only. -/
theorem Finding.isKept_congr
    {disabled other : List String}
    (sameIds : ∀ id, id ∈ other ↔ id ∈ disabled) :
    isKept other = isKept disabled := by
  funext finding
  rw [Bool.eq_iff_iff, isKept_iff, isKept_iff]
  simp only [sameIds]

namespace Audit

variable {tree : FileTree} {target : Path} {scriptsDir : String}

/-- The report with rules switched off is the full one without their findings. -/
theorem reportOn_disabled
    (tree : FileTree)
    (target : Path)
    (scriptsDir : String)
    (disabled : List String) :
    let full := reportOn tree target ⟨scriptsDir, []⟩
    let report := reportOn tree target ⟨scriptsDir, disabled⟩
    report.findings = full.findings.filter (Finding.isKept disabled) ∧
      report.filesScanned = full.filesScanned ∧
      report.skillPath = full.skillPath ∧
      report.note = full.note := by
  intro full report
  obtain ⟨sameFiles, kept⟩ :=
    Scan.directory_disabled tree disabled target (scriptsPath target scriptsDir)
  cases isDirectory : tree.isDirectory (scriptsPath target scriptsDir) with
  | true =>
      simp only [full, report, reportOn_of_isDirectory ⟨scriptsDir, _⟩ isDirectory,
        harvest, Report.aggregate]
      exact ⟨kept, sameFiles, trivial, trivial⟩
  | false =>
      simp [full, report, reportOn_of_not_isDirectory ⟨scriptsDir, _⟩ isDirectory,
        Report.nothingToScan, Report.aggregate]

/-- The report depends on which rules are switched off only. -/
theorem reportOn_congr
    {disabled other : List String}
    (sameIds : ∀ id, id ∈ other ↔ id ∈ disabled) :
    reportOn tree target ⟨scriptsDir, other⟩ =
      reportOn tree target ⟨scriptsDir, disabled⟩ := by
  cases isDirectory : tree.isDirectory (scriptsPath target scriptsDir) with
  | true =>
      obtain ⟨sameFiles, kept⟩ :=
        Scan.directory_disabled tree disabled target (scriptsPath target scriptsDir)
      obtain ⟨otherSameFiles, otherKept⟩ :=
        Scan.directory_disabled tree other target (scriptsPath target scriptsDir)
      simp only [reportOn_of_isDirectory ⟨scriptsDir, _⟩ isDirectory, harvest]
      rw [sameFiles, otherSameFiles, kept, otherKept, Finding.isKept_congr sameIds]
  | false => simp only [reportOn_of_not_isDirectory ⟨scriptsDir, _⟩ isDirectory]

/-- A skill that passes keeps passing when more rules are switched off. -/
theorem reportOn_passed_mono
    {disabled more : List String}
    (fewer : disabled ⊆ more)
    (passes : (reportOn tree target ⟨scriptsDir, disabled⟩).passed = true) :
    (reportOn tree target ⟨scriptsDir, more⟩).passed = true := by
  rw [reportOn_passed_iff] at passes ⊢
  rw [(reportOn_disabled tree target scriptsDir _).1] at passes ⊢
  intro finding member
  obtain ⟨found, kept⟩ := List.mem_filter.mp member
  refine passes finding (List.mem_filter.mpr ⟨found, Finding.isKept_iff.mpr ?_⟩)
  exact fun id isDisabled => Finding.isKept_iff.mp kept id (fewer isDisabled)

/-- In a report, the findings that come from no rule are those of low severity. -/
theorem ruleId_eq_none_iff_of_mem_reportOn
    {config : Config}
    {finding : Finding}
    (member : finding ∈ (reportOn tree target config).findings) :
    finding.ruleId = none ↔ finding.severity = .low := by
  cases isDirectory : tree.isDirectory (scriptsPath target config.scriptsDir) with
  | true =>
      rw [reportOn_of_isDirectory config isDirectory] at member
      exact Scan.ruleId_eq_none_iff member
  | false =>
      rw [reportOn_of_not_isDirectory config isDirectory] at member
      cases member

/-- Switching built-in rules off is filtering the full report: exactly the findings of
these rules are removed. The order of their ids and repeated ids do not matter, and
switching off more of them never rejects a skill that passes. -/
theorem disabling_filters_report
    (tree : FileTree)
    (target : Path)
    (scriptsDir : String)
    (disabled : List String)
    (targetExists : tree.pathExists target = true)
    (known : ∀ id ∈ disabled, id ∈ Catalog.builtinIds) :
    ∃ full report,
      (withConfig tree target ⟨scriptsDir, []⟩).result = .ok full ∧
      (withConfig tree target ⟨scriptsDir, disabled⟩).result = .ok report ∧
      report.findings = full.findings.filter (Finding.isKept disabled) ∧
      (∀ finding ∈ full.findings, finding.ruleId = none ↔ finding.severity = .low) ∧
      report.findings.filter (·.severity = .low) =
        full.findings.filter (·.severity = .low) ∧
      report.filesScanned = full.filesScanned ∧
      report.skillPath = full.skillPath ∧
      report.note = full.note ∧
      (∀ other : List String, (∀ id, id ∈ other ↔ id ∈ disabled) →
        (withConfig tree target ⟨scriptsDir, other⟩).result = .ok report) ∧
      (∀ more : List String, disabled ⊆ more → (∀ id ∈ more, id ∈ Catalog.builtinIds) →
        ∃ moreReport,
          (withConfig tree target ⟨scriptsDir, more⟩).result = .ok moreReport ∧
          (report.passed = true → moreReport.passed = true)) := by
  obtain ⟨filtered, sameFiles, samePath, sameNote⟩ :=
    reportOn_disabled tree target scriptsDir disabled
  refine ⟨reportOn tree target ⟨scriptsDir, []⟩,
    reportOn tree target ⟨scriptsDir, disabled⟩,
    result_eq_reportOn targetExists (by simp), result_eq_reportOn targetExists known,
    filtered, fun finding member => ruleId_eq_none_iff_of_mem_reportOn member, ?_,
    sameFiles, samePath, sameNote, ?_, ?_⟩
  · rw [filtered, List.filter_filter]
    refine List.filter_congr fun finding member => ?_
    rw [Bool.and_eq_left_iff_imp]
    intro low
    have noRule := (ruleId_eq_none_iff_of_mem_reportOn member).mpr (by simpa using low)
    simp [Finding.isKept, noRule]
  · intro other sameIds
    rw [← reportOn_congr sameIds]
    exact result_eq_reportOn targetExists fun id member =>
      known id ((sameIds id).mp member)
  · intro more fewer moreKnown
    exact ⟨_, result_eq_reportOn targetExists moreKnown, reportOn_passed_mono fewer⟩

theorem disabling_filters_report_sample :
    Sample.tree.pathExists Sample.target = true ∧
      (∀ id ∈ Sample.config.disabled, id ∈ Catalog.builtinIds) ∧
      ∃ full report,
        (withConfig Sample.tree Sample.target ⟨"scripts", []⟩).result = .ok full ∧
        (withConfig Sample.tree Sample.target Sample.config).result = .ok report ∧
        report.findings = full.findings.filter
          (Finding.isKept Sample.config.disabled) := by
  obtain ⟨full, report, fullResult, result, filtered, _⟩ :=
    disabling_filters_report Sample.tree Sample.target "scripts" Sample.config.disabled
      Sample.target_exists Sample.config_known
  exact ⟨Sample.target_exists, Sample.config_known, full, report,
    fullResult, result, filtered⟩

end Audit
end ScriptAudit
