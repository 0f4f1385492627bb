import ScriptAudit.Proofs.Audit.Isolation
import ScriptAudit.Proofs.FileTree.Permission

/-!
# Skills without a directory of scripts

A skill passes with a note when it has no directory of scripts. Whether it has one is a
question to the operating system, and a look-up that is denied is answered like one that
finds nothing. The note is therefore not proof that there are no scripts: a skill that
is locked passes as well.
-/

namespace ScriptAudit

namespace Audit

variable {tree : FileTree} {target : Path} {config : Config}

/-- A report says that there was nothing to scan. -/
def SaysAbsent (config : Config) (report : Report) : Prop :=
  report.note = some (absentNote config.scriptsDir) ∧ report.filesScanned = 0 ∧
    report.passed = true

/-- A report says that there was nothing to scan exactly when no directory of scripts
can be looked up. -/
theorem saysAbsent_reportOn_iff :
    SaysAbsent config (reportOn tree target config) ↔
      tree.isDirectory (scriptsPath target config.scriptsDir) = false := by
  cases isDirectory : tree.isDirectory (scriptsPath target config.scriptsDir) with
  | true =>
      rw [reportOn_of_isDirectory config isDirectory]
      simp [SaysAbsent, Report.aggregate]
  | false =>
      rw [reportOn_of_not_isDirectory config isDirectory]
      simp [SaysAbsent, Report.nothingToScan, Report.aggregate,
        Summary.tally, Summary.count]

end Audit

/-! ## The sample behind a lock -/

namespace Sample

open FileTree (steps top linkLimit)

/-- The skill with a lock on it. -/
def lockedTree : FileTree := tree.lock skill.location

theorem lockedTree_target_exists : lockedTree.pathExists target = true := by
  have clear : ¬ tree.PassesThrough target skill.location :=
    FileTree.not_passesThrough_of_leads rfl target_leads (by decide)
  apply FileTree.pathExists_iff.mpr
  refine ⟨skill.lockedAt skill.location,
    (FileTree.status_lock_iff (by decide) clear).mpr ?_⟩
  exact ⟨skill, FileTree.status_eq_ok_iff.mpr ⟨by decide, top, _, rfl, target_leads⟩, rfl⟩

/-- The look-up of the directory of scripts enters the skill and goes no further. -/
theorem lockedTree_stopsAtLock : lockedTree.StopsAtLock start := by
  have names : steps start = [Path.ofString "skill", Path.ofString "scripts"] := by
    decide
  have found : lockedTree.get? (top.location ++ [Path.ofString "skill"]) =
      some (skill.lockedAt skill.location) :=
    (FileTree.get?_lock_eq_some_iff (by decide)).mpr ⟨skill, get?_skill, rfl⟩
  refine ⟨top, [top.location],
    ⟨linkLimit, skill.lockedAt skill.location, [Path.ofString "scripts"]⟩, rfl, ?_, ?_⟩
  · rw [names]
    refine .move (.enter rfl rfl (by decide) found ?_) (.rest _)
    simp [skill, Node.ofText]
  · exact ⟨rfl, Node.lockedAt_locked rfl, _, _, rfl, by decide⟩

/-- The directory of scripts is there all the same. -/
theorem lockedTree_unlocked_isDirectory :
    lockedTree.unlocked.isDirectory start = true := by
  rw [lockedTree, FileTree.unlocked_lock]
  apply (FileTree.isDirectory_iff_unlocked.mp _).1
  rw [FileTree.isDirectory_of_status start_status]
  rfl

end Sample

/-! ## What the note means -/

namespace Audit

/-- The report on a skill says that there was nothing to scan exactly when the tree,
whatever its locks, has no directory of scripts or a lock stops the look-up of it. It
says so wrongly exactly when there is such a directory behind such a lock. -/
theorem saysAbsent_iff_absent_or_denied
    (tree : FileTree)
    (target : Path)
    (config : Config)
    (present : tree.pathExists target = true)
    (known : ∀ id ∈ config.disabled, id ∈ Catalog.builtinIds) :
    let start := target.join (Path.ofString config.scriptsDir)
    ∃ report, (withConfig tree target config).result = .ok report ∧
      (SaysAbsent config report ↔
        tree.unlocked.isDirectory start = false ∨ tree.StopsAtLock start) ∧
      ((SaysAbsent config report → tree.unlocked.isDirectory start = false) ↔
        ¬ (tree.unlocked.isDirectory start = true ∧ tree.StopsAtLock start)) := by
  intro start
  refine ⟨reportOn tree target config, result_eq_reportOn present known, ?_⟩
  have absent_iff : SaysAbsent config (reportOn tree target config) ↔
      tree.unlocked.isDirectory start = false ∨ tree.StopsAtLock start := by
    rw [saysAbsent_reportOn_iff, ← Bool.not_eq_true, scriptsPath,
      FileTree.isDirectory_iff_unlocked, not_and_or, not_not, Bool.not_eq_true]
  refine ⟨absent_iff, ?_⟩
  rw [absent_iff]
  cases tree.unlocked.isDirectory start <;> simp

theorem saysAbsent_iff_absent_or_denied_sample :
    Sample.tree.pathExists Sample.target = true ∧
      Sample.lockedTree.pathExists Sample.target = true ∧
      (∀ id ∈ Sample.config.disabled, id ∈ Catalog.builtinIds) ∧
      (∃ report,
        (withConfig Sample.tree Sample.target Sample.config).result = .ok report ∧
        ¬ SaysAbsent Sample.config report) ∧
      ∃ report,
        (withConfig Sample.lockedTree Sample.target Sample.config).result = .ok report ∧
        SaysAbsent Sample.config report := by
  obtain ⟨report, succeeds, absent_iff, _⟩ := saysAbsent_iff_absent_or_denied Sample.tree
    Sample.target Sample.config Sample.target_exists Sample.config_known
  obtain ⟨lockedReport, lockedSucceeds, locked_iff, _⟩ := saysAbsent_iff_absent_or_denied
    Sample.lockedTree Sample.target Sample.config Sample.lockedTree_target_exists
    Sample.config_known
  have found : Sample.tree.isDirectory Sample.start = true :=
    FileTree.isDirectory_of_status Sample.start_status
  obtain ⟨isDirectory, unstopped⟩ := FileTree.isDirectory_iff_unlocked.mp found
  refine ⟨Sample.target_exists, Sample.lockedTree_target_exists, Sample.config_known,
    ⟨report, succeeds, ?_⟩, lockedReport, lockedSucceeds,
    locked_iff.mpr (.inr Sample.lockedTree_stopsAtLock)⟩
  intro saysAbsent
  rcases absent_iff.mp saysAbsent with absent | stopped
  · exact absurd isDirectory (by rw [Sample.start, absent]; decide)
  · exact unstopped stopped

/-- A skill with scripts passes as one without them when it is locked. -/
theorem locked_skill_saysAbsent :
    Sample.lockedTree.pathExists Sample.target = true ∧
      (∀ id ∈ Sample.config.disabled, id ∈ Catalog.builtinIds) ∧
      (withConfig Sample.lockedTree Sample.target Sample.config).result =
        .ok (.nothingToScan Sample.target (absentNote Sample.config.scriptsDir)) ∧
      Sample.lockedTree.unlocked.isDirectory Sample.start = true := by
  have notFound : Sample.lockedTree.isDirectory Sample.start = false := by
    rw [FileTree.isDirectory,
      FileTree.status_eq_denied_iff.mpr Sample.lockedTree_stopsAtLock]
  refine ⟨Sample.lockedTree_target_exists, Sample.config_known, ?_,
    Sample.lockedTree_unlocked_isDirectory⟩
  rw [result_eq_reportOn Sample.lockedTree_target_exists Sample.config_known,
    reportOn_of_not_isDirectory Sample.config notFound]

end Audit
end ScriptAudit
