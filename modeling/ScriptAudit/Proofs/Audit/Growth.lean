import Mathlib.Data.List.Infix
import ScriptAudit.Proofs.Audit.Result
import ScriptAudit.Proofs.Scan.Growth

/-!
# Reports on a larger tree

Whatever is added to a tree, be it a file, a directory or a link, locked or not, an
audit still reports everything that it reported before. New entries can make links
lead somewhere and give a skill a directory of scripts, but they take nothing away,
and so they cannot make a skill pass that was rejected.
-/

namespace ScriptAudit

open Text (Octets)

theorem Summary.count_le_of_sublist
    {findings more : List Finding}
    (kept : findings.Sublist more)
    (severity : Severity) :
    count severity findings ≤ count severity more :=
  kept.countP_le

namespace Audit

variable {tree larger : FileTree} {target : Path} {config : Config}

/-- The report on a larger tree has all findings of the smaller one, in the same order,
and counts no fewer scripts. -/
theorem reportOn_of_isPartOf
    (isPart : tree.IsPartOf larger)
    (target : Path)
    (config : Config) :
    (reportOn tree target config).findings.Sublist
        (reportOn larger target config).findings ∧
      (reportOn tree target config).filesScanned ≤
        (reportOn larger target config).filesScanned := by
  cases isDirectory : tree.isDirectory (scriptsPath target config.scriptsDir) with
  | false =>
      rw [reportOn_of_not_isDirectory config isDirectory]
      exact ⟨List.nil_sublist _, Nat.zero_le _⟩
  | true =>
      cases begins : tree.status (scriptsPath target config.scriptsDir) with
      | error error => simp [FileTree.isDirectory, begins] at isDirectory
      | ok base =>
          have stays :
              larger.isDirectory (scriptsPath target config.scriptsDir) = true := by
            rw [FileTree.isDirectory_of_status (isPart.status_eq begins),
              ← FileTree.isDirectory_of_status begins, isDirectory]
          rw [reportOn_of_isDirectory config isDirectory,
            reportOn_of_isDirectory config stays]
          exact Scan.directory_of_isPartOf isPart begins ⟨config.disabled⟩ target

theorem reportOn_passed_of_sublist
    (kept : (reportOn tree target config).findings.Sublist
      (reportOn larger target config).findings)
    (passes : (reportOn larger target config).passed = true) :
    (reportOn tree target config).passed = true := by
  rw [reportOn_passed_iff] at passes ⊢
  exact fun finding member => passes finding (kept.subset member)

end Audit

/-! ## Additions to the sample -/

namespace Sample

/-- A script that is added, locked and in a directory that is missing. -/
def wipe : Node :=
  .ofText ["skill", "scripts", "tools", "wipe.sh"]
    (.file (Path.ofString "rm -rf /\n")) true

theorem isVacant_wipe : tree.IsVacant wipe.location where
  isName := by decide
  get?_eq_none := by decide
  around := by
    intro outer isOuter node found
    have known : ∀ front ∈ wipe.location.inits,
        (tree.get? front).all Node.isDirectory = true := by decide
    simpa [found] using known outer ((List.mem_inits _ _).mpr isOuter)

end Sample

namespace Audit

/-- Adding entries to a tree hides nothing: an audit that gave a report gives one that
has the same findings among others and in the same order, no smaller counts, and no
better verdict. Every entry can be added at a vacant location, together with the
directories around it that are missing. -/
theorem additions_hide_nothing
    (tree : FileTree)
    (target : Path)
    (config : Config)
    (report : Report)
    (succeeds : (withConfig tree target config).result = .ok report) :
    (∀ larger, tree.IsPartOf larger →
      ∃ largerReport, (withConfig larger target config).result = .ok largerReport ∧
        report.findings.Sublist largerReport.findings ∧
        report.filesScanned ≤ largerReport.filesScanned ∧
        report.summary.high ≤ largerReport.summary.high ∧
        report.summary.medium ≤ largerReport.summary.medium ∧
        report.summary.low ≤ largerReport.summary.low ∧
        (largerReport.passed = true → report.passed = true)) ∧
    (∀ location entry locked, tree.IsVacant location →
      ∃ larger, tree.IsPartOf larger ∧
        larger.get? location = some ⟨location, entry, locked⟩ ∧
        ∀ node ∈ larger.nodes, node ∈ tree.nodes ∨ node = ⟨location, entry, locked⟩ ∨
          FileTree.Encloses node.location location ∧ node.isDirectory) := by
  obtain ⟨targetExists, known, rfl⟩ := result_eq_ok_iff.mp succeeds
  refine ⟨fun larger isPart => ?_, fun location entry locked vacant =>
    vacant.exists_larger entry locked⟩
  have stillExists : larger.pathExists target = true := by
    obtain ⟨found, leads⟩ := FileTree.pathExists_iff.mp targetExists
    exact FileTree.pathExists_iff.mpr ⟨found, isPart.status_eq leads⟩
  obtain ⟨kept, moreFiles⟩ := reportOn_of_isPartOf isPart target config
  refine ⟨_, result_eq_reportOn stillExists known, kept, moreFiles, ?_⟩
  rw [reportOn_summary, reportOn_summary]
  exact ⟨Summary.count_le_of_sublist kept .high, Summary.count_le_of_sublist kept .medium,
    Summary.count_le_of_sublist kept .low, reportOn_passed_of_sublist kept⟩

theorem additions_hide_nothing_sample :
    ∃ report larger largerReport,
      (withConfig Sample.tree Sample.target Sample.config).result = .ok report ∧
      Sample.tree.IsVacant Sample.wipe.location ∧
      Sample.tree.IsPartOf larger ∧
      larger.get? Sample.wipe.location = some Sample.wipe ∧
      (withConfig larger Sample.target Sample.config).result = .ok largerReport ∧
      report.findings.Sublist largerReport.findings ∧
      (largerReport.passed = true → report.passed = true) := by
  have succeeds := result_eq_reportOn Sample.target_exists Sample.config_known
  obtain ⟨ofLarger, ofEntry⟩ := additions_hide_nothing _ _ _ _ succeeds
  obtain ⟨larger, isPart, added, _⟩ :=
    ofEntry _ Sample.wipe.entry Sample.wipe.locked Sample.isVacant_wipe
  obtain ⟨largerReport, largerResult, kept, _, _, _, _, verdict⟩ := ofLarger larger isPart
  exact ⟨_, larger, largerReport, succeeds, Sample.isVacant_wipe, isPart,
    added, largerResult, kept, verdict⟩

end Audit
end ScriptAudit
