import ScriptAudit.Proofs.Audit.Result

/-!
# The verdict on a skill

A skill is rejected exactly when the walk through its directory of scripts comes to
a script that can be read and that holds a line on which a rule of the high tier
matches. Nothing else that happens on the walk has a say in the verdict.
-/

namespace ScriptAudit

open Text (Octets)

/-- A pattern matches when it occurs in the line or its search was given up. -/
theorem Pattern.Compiled.isMatch_iff
    {compiled : Compiled}
    {line : Line} :
    compiled.isMatch line = true ↔
      compiled.verdict line = .hit ∨
      ∃ reason, compiled.verdict line = .gaveUp reason := by
  unfold isMatch
  cases compiled.verdict line <;> simp [Verdict.isMatch]

/-- On some line of a text a rule for its language matches that has the high tier and
is not switched off. A search that is given up counts as a match. -/
def IsDangerousText
    (disabled : List String)
    (language : Language)
    (text : List Char) : Prop :=
  ∃ chars ∈ Text.lines text, ∃ rule ∈ Catalog.builtin.rules,
    rule.language = language ∧ rule.tier = .high ∧ rule.id ∉ disabled ∧
    (rule.pattern.verdict chars.toArray = .hit ∨
      ∃ reason, rule.pattern.verdict chars.toArray = .gaveUp reason)

/-- A path leads to a script that can be read and whose text, with unreadable octets
replaced, is dangerous. -/
def FileTree.IsDangerous
    (tree : FileTree)
    (disabled : List String)
    (path : Path) : Prop :=
  ∃ language octets, tree.isFile path = true ∧
    Language.classify? path = some language ∧ tree.read path = .ok octets ∧
    IsDangerousText disabled language (Text.decodeLossy octets)

namespace Scan

variable {tree : FileTree} {rules : RuleSet} {root start path : Path}

/-- A script that is read contributes a finding of high severity exactly when its text
is dangerous. -/
theorem exists_high_scanned_iff
    {file : String}
    {language : Language}
    {octets : Octets} :
    (∃ finding ∈ (Harvest.scanned rules file language octets).findings,
        finding.severity = .high) ↔
      IsDangerousText rules.disabled language (Text.decodeLossy octets) := by
  simp only [Harvest.scanned_findings, exists_high_mem_content_iff,
    RuleSet.mem_rulesFor_iff, IsDangerousText, ← Pattern.Compiled.isMatch_iff]
  constructor
  · rintro ⟨rule, ⟨builtin, written, enabled⟩, high, chars, present, matched⟩
    exact ⟨chars, present, rule, builtin, written, high, enabled, matched⟩
  · rintro ⟨chars, present, rule, builtin, written, high, enabled, matched⟩
    exact ⟨rule, ⟨builtin, written, enabled⟩, high, chars, present, matched⟩

/-- A visit contributes a finding of high severity exactly when it comes to a
dangerous script. -/
theorem exists_high_visit_iff {visited : Visit} :
    (∃ finding ∈ (visit tree rules root visited).findings, finding.severity = .high) ↔
      ∃ path, visited = .reached path ∧ tree.IsDangerous rules.disabled path := by
  cases visited.kind tree with
  | failed path error => simp [visit, Harvest.cannotWalk, Finding.unreadable]
  | @other path noScript =>
      rw [(visit_of_not_isScript noScript rules root).2]
      constructor
      · simp
      · rintro ⟨_, ⟨⟩, language, octets, isFile, classified, _⟩
        simp [FileTree.isScript, isFile, classified] at noScript
  | unreadable isFile classified failure =>
      rw [visit_of_read_error isFile classified failure]
      simp [Harvest.cannotRead, Finding.unreadable, FileTree.IsDangerous, failure]
  | scanned isFile classified readable =>
      rw [visit_of_read_ok isFile classified readable, exists_high_scanned_iff]
      simp [FileTree.IsDangerous, isFile, classified, readable]

/-- A scan has a finding of high severity exactly when its walk comes to a dangerous
script. -/
theorem exists_high_directory_iff :
    (∃ finding ∈ (directory tree rules root start).findings, finding.severity = .high) ↔
      ∃ names node, tree.Walked start names node ∧
        tree.IsDangerous rules.disabled (start.descend names) := by
  rw [directory_eq_visits, visits_findings]
  simp only [List.mem_flatMap]
  constructor
  · rintro ⟨finding, ⟨visited, member, found⟩, high⟩
    obtain ⟨path, rfl, dangerous⟩ := exists_high_visit_iff.mp ⟨finding, found, high⟩
    obtain ⟨names, node, walked, rfl⟩ := FileTree.reached_mem_walk_iff.mp member
    exact ⟨names, node, walked, dangerous⟩
  · rintro ⟨names, node, walked, dangerous⟩
    obtain ⟨finding, found, high⟩ :=
      exists_high_visit_iff.mpr ⟨start.descend names, rfl, dangerous⟩
    exact ⟨finding,
      ⟨_, FileTree.reached_mem_walk_iff.mpr ⟨names, node, walked, rfl⟩, found⟩, high⟩

end Scan

namespace Audit

variable {tree : FileTree} {target : Path} {config : Config}

theorem reportOn_passed_eq_false_iff :
    let start := scriptsPath target config.scriptsDir
    (reportOn tree target config).passed = false ↔
      tree.isDirectory start = true ∧
        ∃ names node, tree.Walked start names node ∧
          tree.IsDangerous config.disabled (start.descend names) := by
  intro start
  cases isDirectory : tree.isDirectory start with
  | true =>
      rw [reportOn_of_isDirectory config isDirectory,
        Report.aggregate_passed_eq_false_iff, harvest, Scan.exists_high_directory_iff]
      simp [start]
  | false =>
      rw [reportOn_of_not_isDirectory config isDirectory]
      simp [Report.nothingToScan, Report.aggregate, Summary.tally, Summary.count]

/-- An audit of a skill that exists, with built-in rules switched off only, gives a
report. It rejects the skill exactly when the walk from its directory of scripts
comes to a dangerous script. -/
theorem rejects_iff_dangerous
    (tree : FileTree)
    (target : Path)
    (config : Config)
    (targetExists : tree.pathExists target = true)
    (known : ∀ id ∈ config.disabled, id ∈ Catalog.builtinIds) :
    let start := target.join (Path.ofString config.scriptsDir)
    ∃ report, (withConfig tree target config).result = .ok report ∧
      (report.passed = false ↔
        tree.isDirectory start = true ∧
          ∃ names node, tree.Walked start names node ∧
            tree.IsDangerous config.disabled (start.descend names)) :=
  ⟨reportOn tree target config, result_eq_reportOn targetExists known,
    reportOn_passed_eq_false_iff⟩

theorem rejects_iff_dangerous_sample :
    let start := Sample.target.join (Path.ofString Sample.config.scriptsDir)
    Sample.tree.pathExists Sample.target = true ∧
      (∀ id ∈ Sample.config.disabled, id ∈ Catalog.builtinIds) ∧
      ∃ report, (withConfig Sample.tree Sample.target Sample.config).result = .ok report ∧
        (report.passed = false ↔
          Sample.tree.isDirectory start = true ∧
            ∃ names node, Sample.tree.Walked start names node ∧
              Sample.tree.IsDangerous Sample.config.disabled (start.descend names)) :=
  ⟨Sample.target_exists, Sample.config_known,
    rejects_iff_dangerous _ _ _ Sample.target_exists Sample.config_known⟩

end Audit
end ScriptAudit
