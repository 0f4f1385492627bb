import ScriptAudit.Proofs.Audit.Result
import ScriptAudit.Proofs.FileTree.Growth
import ScriptAudit.Proofs.Scan.Isolation

/-!
# Locks do not spread

A lock on a directory or a script below the directory of scripts costs a report what
was found there and nothing else. One finding that it cannot be read takes the place
of these findings, and all others remain as and where they were.
-/

namespace ScriptAudit

open Text (Octets)

namespace Audit

variable {tree : FileTree} {target : Path} {config : Config} {report : Report}

/-- Locking a node that a walk comes to changes a report in one place, given what the
locked node contributes to the scan. -/
theorem exists_locked_report
    {names : List Octets}
    {node base : Node}
    {finding : Finding}
    (succeeds : (withConfig tree target config).result = .ok report)
    (begins : tree.status (scriptsPath target config.scriptsDir) = .ok base)
    (walked : tree.Walked (scriptsPath target config.scriptsDir) names node)
    (nonempty : names ≠ [])
    (linksAvoid : tree.LinksAvoid node.location)
    (targetClear : ¬ tree.PassesThrough target node.location)
    (startClear : ¬ tree.PassesThrough
      (scriptsPath target config.scriptsDir) node.location)
    (noticed :
      let noticed := Scan.visits (tree.lock node.location) ⟨config.disabled⟩ target
        (FileTree.visitsAt (scriptsPath target config.scriptsDir) base
          [node.lockedAt node.location])
      noticed.filesScanned = 0 ∧ noticed.findings = [finding]) :
    let start := scriptsPath target config.scriptsDir
    let inside := FileTree.visitsAt start base
      (FileTree.within node.location (tree.walkedNodes base))
    ∃ lockedReport,
      (withConfig (tree.lock node.location) target config).result = .ok lockedReport ∧
      Scan.ReplacesBlock tree ⟨config.disabled⟩ target start (start.descend names)
        report.findings lockedReport.findings finding ∧
      lockedReport.filesScanned + inside.countP (Visit.isScanned tree) =
        report.filesScanned := by
  intro start inside
  obtain ⟨targetExists, known, rfl⟩ := result_eq_ok_iff.mp succeeds
  have isBelow := walked.encloses begins nonempty
  have isDirectory := walked.isDirectory_start begins nonempty
  have lockedBegins := FileTree.status_lock_of_encloses begins isBelow startClear
  have lockedExists : (tree.lock node.location).pathExists target = true := by
    obtain ⟨found, leads⟩ := FileTree.pathExists_iff.mp targetExists
    exact FileTree.pathExists_iff.mpr
      ⟨_, (FileTree.status_lock_iff isBelow.ne_nil targetClear).mpr ⟨found, leads, rfl⟩⟩
  refine ⟨_, result_eq_reportOn lockedExists known, ?_⟩
  rw [reportOn_of_isDirectory config
      ((FileTree.isDirectory_of_status begins).trans isDirectory),
    reportOn_of_isDirectory config
      ((FileTree.isDirectory_of_status lockedBegins).trans isDirectory)]
  exact Scan.directory_lock begins walked nonempty startClear linksAvoid noticed

end Audit

/-! ## Paths and links of the sample -/

namespace Sample

open FileTree (steps top linkLimit)

/-- The path of the directory of scripts. -/
def start : Path := target.join (Path.ofString config.scriptsDir)

theorem get?_scripts :
    tree.get? (skill.location ++ [Path.ofString "scripts"]) = some scripts := by
  decide

theorem start_leads :
    tree.Leads linkLimit top (steps start) [[], skill.location] scripts := by
  have names : steps start = [Path.ofString "skill", Path.ofString "scripts"] := by
    decide
  rw [names]
  refine ⟨linkLimit, .move (.enter rfl rfl (by decide) get?_skill ?_)
    (.move (.enter rfl rfl (by decide) get?_scripts ?_) (.rest _))⟩
  · simp [skill, Node.ofText]
  · simp [scripts, Node.ofText]

theorem start_status : tree.status start = .ok scripts :=
  FileTree.status_eq_ok_iff.mpr ⟨by decide, top, _, rfl, start_leads⟩

theorem shortcut_leads :
    tree.Leads linkLimit scripts [Path.ofString "alias.py"]
      [scripts.location, scripts.location] run := by
  have linkFound :
      tree.get? (scripts.location ++ [Path.ofString "alias.py"]) = some shortcut := by
    decide
  have runFound :
      tree.get? (scripts.location ++ [Path.ofString "run.py"]) = some run := by
    decide
  have names : steps (Path.ofString "run.py") = [Path.ofString "run.py"] := by
    decide
  refine ⟨39, .move (.follow rfl rfl (by decide) linkFound rfl) ?_⟩
  rw [names]
  refine .move (.enter rfl rfl (by decide) runFound ?_) (.rest _)
  simp [run, Node.ofText]

/-- The link stays in the directory of scripts and leads to the script, whatever else is
in the tree. -/
theorem linkReaches_shortcut
    {larger : FileTree}
    {location : Location}
    (isPart : tree.IsPartOf larger)
    (reaches : larger.LinkReaches shortcut location) :
    location = scripts.location ∨ location = run.location := by
  obtain ⟨_, around, name, passed, found, aroundFound, located, leads, goes⟩ := reaches
  have split : shortcut.location = scripts.location ++ [Path.ofString "alias.py"] := rfl
  obtain ⟨sameAround, sameName⟩ := List.append_inj' (split.symm.trans located) rfl
  obtain rfl := List.singleton_inj.mp sameName
  have scriptsFound : larger.get? scripts.location = some scripts :=
    isPart.get?_eq (by decide)
  rw [sameAround, aroundFound] at scriptsFound
  obtain rfl := Option.some.inj scriptsFound
  obtain ⟨rfl, rfl⟩ := (isPart.leads shortcut_leads).unique leads
  simp only [List.mem_cons, List.not_mem_nil, or_false, or_self] at goes
  exact goes.imp_right Eq.symm

theorem eq_shortcut_of_isLink
    {link : Node}
    {path : Path}
    (present : link ∈ tree.nodes)
    (isLink : link.entry = .link path) :
    link = shortcut := by
  simp only [tree, List.mem_cons, List.not_mem_nil, or_false] at present
  rcases present with rfl | rfl | rfl | rfl | rfl | rfl | rfl
  case inr.inr.inr.inr.inr.inl => rfl
  all_goals cases isLink

/-- The only link stays in the directory of scripts and leads to the script. -/
theorem linksAvoid
    {location : Location}
    (notScripts : location ≠ scripts.location)
    (notRun : location ≠ run.location) :
    tree.LinksAvoid location := by
  intro link present _ reaches
  obtain ⟨path, isLink⟩ := reaches.1
  obtain rfl := eq_shortcut_of_isLink present isLink
  exact (linkReaches_shortcut (.refl tree) reaches).elim notScripts notRun

theorem walked_library : tree.Walked start [Path.ofString "lib"] library :=
  .child (.start start_status) rfl rfl (by decide)

theorem walked_clean :
    tree.Walked start [Path.ofString "lib", Path.ofString "clean.sh"] clean :=
  .child walked_library rfl rfl (by decide)

end Sample

/-! ## Reports around a lock -/

namespace Audit

/-- Locking a directory or a script below the directory of scripts replaces what was
found at or below it by one finding that it cannot be read. No link may lead there,
and the directory of scripts may not be looked up through it. -/
theorem lock_replaces_block
    (tree : FileTree)
    (target : Path)
    (config : Config)
    (report : Report)
    (succeeds : (withConfig tree target config).result = .ok report) :
    let start := target.join (Path.ofString config.scriptsDir)
    let rules : RuleSet := ⟨config.disabled⟩
    (∀ names directory, tree.Walked start names directory → names ≠ [] →
      directory.isDirectory = true → tree.LinksAvoid directory.location →
      ¬ tree.PassesThrough target directory.location →
      ¬ tree.PassesThrough start directory.location →
      let path := start.descend names
      ∃ lockedReport,
        (withConfig (tree.lock directory.location) target config).result =
          .ok lockedReport ∧
        Scan.ReplacesBlock tree rules target start path
          report.findings lockedReport.findings
          (.unreadable (Path.relativeTo target path).display
            (Scan.walkErrorText path .denied)) ∧
        lockedReport.filesScanned + Scan.scannedWithin tree start path =
          report.filesScanned) ∧
    (∀ names file content language, tree.Walked start names file → names ≠ [] →
      file.entry = .file content →
      Language.classify? (start.descend names) = some language →
      tree.LinksAvoid file.location →
      let path := start.descend names
      ∃ lockedReport,
        (withConfig (tree.lock file.location) target config).result = .ok lockedReport ∧
        Scan.ReplacesBlock tree rules target start path
          report.findings lockedReport.findings
          (.unreadable (Path.relativeTo target path).display OsError.denied.message) ∧
        lockedReport.filesScanned + (if (tree.read path).isOk then 1 else 0) =
          report.filesScanned) := by
  intro start rules
  constructor
  · intro names directory walked nonempty isDirectory linksAvoid
      targetClear startClear path
    obtain ⟨base, begins⟩ := walked.exists_status
    have lockedBegins := FileTree.status_lock_of_encloses begins
      (walked.encloses begins nonempty) startClear
    have lockedWalked := walked.lock begins nonempty startClear
    have remains : (directory.lockedAt directory.location).isDirectory = true := by
      simpa [Node.isDirectory] using isDirectory
    rw [Scan.scannedWithin_eq begins walked nonempty]
    exact exists_locked_report succeeds begins walked nonempty linksAvoid targetClear
      startClear (Scan.visits_locked_directory lockedBegins lockedWalked remains
        (Node.lockedAt_locked rfl))
  · intro names file content language walked nonempty isFile classified linksAvoid path
    obtain ⟨base, begins⟩ := walked.exists_status
    have present := walked.get?_location
    have startClear : ¬ tree.PassesThrough start file.location :=
      FileTree.not_passesThrough_file present isFile
    have lockedBegins := FileTree.status_lock_of_encloses begins
      (walked.encloses begins nonempty) startClear
    have lockedWalked := walked.lock begins nonempty startClear
    have remains : (file.lockedAt file.location).entry = .file content := by
      rw [Node.lockedAt_entry, isFile]
    rw [← Scan.countP_isScanned_script begins walked isFile classified]
    exact exists_locked_report succeeds begins walked nonempty linksAvoid
      (FileTree.not_passesThrough_file present isFile) startClear
      (Scan.visits_locked_script lockedBegins lockedWalked remains classified
        (Node.lockedAt_locked rfl))

theorem lock_replaces_block_sample :
    ∃ report lockedReport otherReport,
      (withConfig Sample.tree Sample.target Sample.config).result = .ok report ∧
      Sample.tree.Walked Sample.start [Path.ofString "lib"] Sample.library ∧
      Sample.tree.LinksAvoid Sample.library.location ∧
      ¬ Sample.tree.PassesThrough Sample.target Sample.library.location ∧
      ¬ Sample.tree.PassesThrough Sample.start Sample.library.location ∧
      (withConfig (Sample.tree.lock Sample.library.location) Sample.target
        Sample.config).result = .ok lockedReport ∧
      lockedReport.filesScanned + Scan.scannedWithin Sample.tree Sample.start
        (Sample.start.descend [Path.ofString "lib"]) = report.filesScanned ∧
      Sample.tree.LinksAvoid Sample.clean.location ∧
      (withConfig (Sample.tree.lock Sample.clean.location) Sample.target
        Sample.config).result = .ok otherReport ∧
      otherReport.filesScanned + 1 = report.filesScanned := by
  have succeeds := result_eq_reportOn Sample.target_exists Sample.config_known
  have libraryAvoided : Sample.tree.LinksAvoid Sample.library.location :=
    Sample.linksAvoid (by decide) (by decide)
  have cleanAvoided : Sample.tree.LinksAvoid Sample.clean.location :=
    Sample.linksAvoid (by decide) (by decide)
  have targetClear : ¬ Sample.tree.PassesThrough Sample.target Sample.library.location :=
    FileTree.not_passesThrough_of_leads rfl Sample.target_leads (by decide)
  have startClear : ¬ Sample.tree.PassesThrough Sample.start Sample.library.location :=
    FileTree.not_passesThrough_of_leads rfl Sample.start_leads (by decide)
  obtain ⟨ofDirectory, ofFile⟩ := lock_replaces_block _ _ _ _ succeeds
  obtain ⟨lockedReport, lockedResult, _, lockedCount⟩ :=
    ofDirectory _ _ Sample.walked_library
    (by simp) rfl libraryAvoided targetClear startClear
  obtain ⟨otherReport, otherResult, _, otherCount⟩ :=
    ofFile _ _ _ .bash Sample.walked_clean (by simp) rfl (by decide) cleanAvoided
  have readable : (Sample.tree.read (Sample.start.descend
      [Path.ofString "lib", Path.ofString "clean.sh"])).isOk = true := by
    have leads := Sample.walked_clean.status_eq (by simp [Sample.clean, Node.ofText])
    rw [FileTree.read_of_status leads]
    rfl
  refine ⟨_, lockedReport, otherReport, succeeds, Sample.walked_library, libraryAvoided,
    targetClear, startClear, lockedResult, lockedCount, cleanAvoided, otherResult, ?_⟩
  rw [← otherCount]
  simp only [Sample.start] at readable
  rw [if_pos readable]

end Audit
end ScriptAudit
