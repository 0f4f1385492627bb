import ScriptAudit.Proofs.Audit.Result
import ScriptAudit.Proofs.Scan.Order
import ScriptAudit.Proofs.Text.Excerpt

/-!
# The shape of a report

A finding says that a rule matched a line or that something could not be read, and its
fields are filled accordingly. The counts and the verdict of a report follow from its
findings, and a report with a note has none.
-/

namespace ScriptAudit

/-! ## Two kinds of findings -/

/-- A finding about one of some lines, on which a rule matches. -/
structure Finding.IsMatchOf
    (rule : Rule)
    (lines : List (List Char))
    (finding : Finding) : Prop where
  tier : finding.severity = rule.tier.severity
  severity : finding.severity = .high ∨ finding.severity = .medium
  ruleId : finding.ruleId = some rule.id
  description : finding.description = some rule.description
  error : finding.error = none
  quotes : ∃ number line quoted,
    finding.line = some number ∧ 1 ≤ number ∧ number ≤ lines.length ∧
    lines[number - 1]? = some line ∧ rule.pattern.isMatch line.toArray = true ∧
    finding.excerpt = some quoted ∧ Text.IsExcerpt line quoted ∧ '\n' ∉ quoted.toList

/-- A finding about something that could not be read. -/
structure Finding.IsReadFailure (finding : Finding) : Prop where
  severity : finding.severity = .low
  error : ∃ cause, finding.error = some cause
  line : finding.line = none
  description : finding.description = none
  excerpt : finding.excerpt = none
  ruleId : finding.ruleId = none

/-- No finding is of both kinds. -/
theorem Finding.IsMatchOf.not_isReadFailure
    {rule : Rule}
    {lines : List (List Char)}
    {finding : Finding}
    (isMatch : finding.IsMatchOf rule lines) :
    ¬finding.IsReadFailure := by
  intro isFailure
  obtain ⟨cause, failed⟩ := isFailure.error
  rw [isMatch.error] at failed
  cases failed

theorem Finding.unreadable_isReadFailure (file error : String) :
    (Finding.unreadable file error).IsReadFailure :=
  ⟨rfl, ⟨error, rfl⟩, rfl, rfl, rfl, rfl⟩

namespace Scan

variable {tree : FileTree} {rules : RuleSet} {root start : Path} {finding : Finding}

/-- Every finding in a text quotes one of its lines. -/
theorem isMatchOf_of_mem_content
    {file : String}
    {text : List Char}
    {language : Language}
    (member : finding ∈ content rules file text language) :
    finding.file = file ∧
      ∃ rule ∈ rules.rulesFor language, finding.IsMatchOf rule (Text.lines text) := by
  obtain ⟨rule, applied, line, number, numbered, isMatch, rfl⟩ :=
    mem_content_iff.mp member
  obtain ⟨index, chars, present, rfl, rfl⟩ := mem_numberedLines_iff.mp numbered
  refine ⟨rfl, rule, applied, rfl, ?_, rfl, rfl, rfl,
    index + 1, chars, Text.excerpt chars, rfl, by omega, ?_, present, isMatch, rfl,
    Text.isExcerpt_excerpt chars, ?_⟩
  · change rule.tier.severity = .high ∨ rule.tier.severity = .medium
    cases rule.tier <;> decide
  · exact (List.getElem?_eq_some_iff.mp present).1
  · intro contained
    exact Text.not_mem_of_mem_lines (List.mem_of_getElem? present)
      ((Text.isExcerpt_excerpt chars).subset contained)

/-- A finding about a line of a script that a scan reads. A built-in rule for the
language of the script matches there that is not switched off. -/
def FindsMatch
    (tree : FileTree)
    (disabled : List String)
    (root start : Path)
    (finding : Finding) : Prop :=
  ∃ names node language octets rule,
    tree.Walked start names node ∧
    tree.isFile (start.descend names) = true ∧
    Language.classify? (start.descend names) = some language ∧
    tree.read (start.descend names) = .ok octets ∧
    finding.file = (Path.relativeTo root (start.descend names)).display ∧
    rule ∈ Catalog.builtin.rules ∧ rule.language = language ∧ rule.id ∉ disabled ∧
    finding.IsMatchOf rule (Text.lines (Text.decodeLossy octets))

theorem FindsMatch.not_isReadFailure
    {disabled : List String}
    (findsMatch : FindsMatch tree disabled root start finding) :
    ¬finding.IsReadFailure := by
  obtain ⟨names, node, language, octets, rule, _, _, _, _, _, _, _, _, isMatch⟩ :=
    findsMatch
  exact isMatch.not_isReadFailure

/-- What a visit contributes is of one kind or the other. -/
theorem kind_of_mem_visit
    {visited : Visit}
    (walked : visited ∈ tree.walk start)
    (member : finding ∈ (visit tree rules root visited).findings) :
    FindsMatch tree rules.disabled root start finding ∨ finding.IsReadFailure := by
  cases visited.kind tree with
  | failed path error =>
      obtain rfl := List.mem_singleton.mp member
      exact .inr (Finding.unreadable_isReadFailure _ _)
  | other noScript =>
      rw [(visit_of_not_isScript noScript rules root).2] at member
      cases member
  | unreadable isFile classified failure =>
      rw [visit_of_read_error isFile classified failure] at member
      obtain rfl := List.mem_singleton.mp member
      exact .inr (Finding.unreadable_isReadFailure _ _)
  | scanned isFile classified readable =>
      rw [visit_of_read_ok isFile classified readable, Harvest.scanned_findings] at member
      obtain ⟨named, rule, applied, isMatch⟩ := isMatchOf_of_mem_content member
      obtain ⟨builtin, written, enabled⟩ := RuleSet.mem_rulesFor_iff.mp applied
      obtain ⟨names, node, reached, rfl⟩ := FileTree.reached_mem_walk_iff.mp walked
      exact .inl ⟨names, node, _, _, rule, reached, isFile, classified, readable, named,
        builtin, written, enabled, isMatch⟩

theorem kind_of_mem_directory
    (member : finding ∈ (directory tree rules root start).findings) :
    FindsMatch tree rules.disabled root start finding ∨ finding.IsReadFailure := by
  rw [directory_eq_visits, visits_findings, List.mem_flatMap] at member
  obtain ⟨visited, walked, found⟩ := member
  exact kind_of_mem_visit walked found

end Scan

/-! ## Counts and verdict -/

/-- Every finding has one of three severities. -/
theorem Summary.total_tally (findings : List Finding) :
    (tally findings).total = findings.length := by
  induction findings with
  | nil => rfl
  | cons finding findings inductionHypothesis =>
      simp only [total, tally, count, List.countP_cons, List.length_cons] at *
      cases finding.severity <;> simp <;> omega

namespace Audit

variable {tree : FileTree} {target : Path} {config : Config} {report : Report}

theorem reportOn_passed_iff_high_eq_zero :
    (reportOn tree target config).passed = true ↔
      (reportOn tree target config).summary.high = 0 := by
  unfold reportOn
  split <;> simp [Report.nothingToScan, Report.aggregate]

theorem kind_of_mem_reportOn
    {finding : Finding}
    (member : finding ∈ (reportOn tree target config).findings) :
    Scan.FindsMatch tree config.disabled target (scriptsPath target config.scriptsDir)
      finding ∨ finding.IsReadFailure := by
  unfold reportOn at member
  split at member
  · exact Scan.kind_of_mem_directory member
  · cases member

theorem reportOn_of_note
    {note : String}
    (noted : (reportOn tree target config).note = some note) :
    (reportOn tree target config).findings = [] ∧
      (reportOn tree target config).filesScanned = 0 ∧
      (reportOn tree target config).passed = true := by
  unfold reportOn at noted ⊢
  split at noted
  · cases noted
  · rename_i noDirectory
    rw [if_neg noDirectory]
    exact ⟨rfl, rfl, rfl⟩

/-- The counts of a report are those of its findings and its verdict follows from them.
Every finding is a match of a rule that is applied or a failure to read, and never both.
A report with a note has no findings. -/
theorem report_shape
    (succeeds : (withConfig tree target config).result = .ok report) :
    (report.summary.high = report.findings.countP (·.severity = .high) ∧
      report.summary.medium = report.findings.countP (·.severity = .medium) ∧
      report.summary.low = report.findings.countP (·.severity = .low) ∧
      report.summary.high + report.summary.medium + report.summary.low =
        report.findings.length) ∧
    (report.passed = true ↔ report.summary.high = 0) ∧
    (∀ finding ∈ report.findings,
      let isMatch := Scan.FindsMatch tree config.disabled target
        (target.join (Path.ofString config.scriptsDir)) finding
      (isMatch ∨ finding.IsReadFailure) ∧ ¬(isMatch ∧ finding.IsReadFailure)) ∧
    (∀ note, report.note = some note →
      report.findings = [] ∧ report.filesScanned = 0 ∧ report.passed = true) := by
  obtain ⟨_, _, rfl⟩ := result_eq_ok_iff.mp succeeds
  have tallied := reportOn_summary tree target config
  have total := Summary.total_tally (reportOn tree target config).findings
  rw [← tallied] at total
  refine ⟨⟨congrArg Summary.high tallied, congrArg Summary.medium tallied,
    congrArg Summary.low tallied, total⟩, reportOn_passed_iff_high_eq_zero,
    fun finding member => ?_, fun note => reportOn_of_note⟩
  exact ⟨kind_of_mem_reportOn member, fun both => both.1.not_isReadFailure both.2⟩

theorem report_shape_sample :
    ∃ report, (withConfig Sample.tree Sample.target Sample.config).result = .ok report ∧
      report.summary.high + report.summary.medium + report.summary.low =
        report.findings.length ∧
      (report.passed = true ↔ report.summary.high = 0) ∧
      ∀ finding ∈ report.findings,
        Scan.FindsMatch Sample.tree Sample.config.disabled Sample.target
            (Sample.target.join (Path.ofString Sample.config.scriptsDir)) finding ∨
          finding.IsReadFailure := by
  have succeeds := result_eq_reportOn Sample.target_exists Sample.config_known
  obtain ⟨⟨_, _, _, total⟩, passes, shapes, _⟩ := report_shape succeeds
  exact ⟨_, succeeds, total, passes, fun finding member => (shapes finding member).1⟩

end Audit
end ScriptAudit
