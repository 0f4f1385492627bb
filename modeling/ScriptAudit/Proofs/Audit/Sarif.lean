import ScriptAudit.Proofs.Audit.Shape
import ScriptAudit.Proofs.Report.Sarif

/-!
# SARIF logs of audits

The results of a log refer to the rules of the same log. In the log of an audit they
also have the levels of these rules: a built-in rule has one severity, and the id for
what could not be read is that of no rule.
-/

namespace ScriptAudit

open Report.Sarif (ruleId readErrorId log contentsOf resultOf Contents Result RuleEntry)

namespace Audit

variable {tree : FileTree} {target : Path} {config : Config} {finding other : Finding}

/-! ## Levels in the log of an audit -/

/-- The id of a finding in the log of an audit is that of the built-in rule that gives
it its severity, or the one for what could not be read. -/
theorem ruleId_of_mem_reportOn
    (member : finding ∈ (reportOn tree target config).findings) :
    (∃ rule ∈ Catalog.builtin.rules, ruleId finding = rule.id ∧
        finding.severity = rule.tier.severity) ∨
      ruleId finding = readErrorId ∧ finding.severity = .low := by
  rcases kind_of_mem_reportOn member with findsMatch | isFailure
  · obtain ⟨_, _, _, _, rule, _, _, _, _, _, isBuiltin, _, _, isMatch⟩ := findsMatch
    refine .inl ⟨rule, isBuiltin, ?_, isMatch.tier⟩
    rw [ruleId, isMatch.ruleId, Option.getD_some]
  · refine .inr ⟨?_, isFailure.severity⟩
    rw [ruleId, isFailure.ruleId, Option.getD_none]

theorem readErrorId_notMem_builtinIds : readErrorId ∉ Catalog.builtinIds := by
  decide

theorem id_ne_readErrorId
    {rule : Rule}
    (isBuiltin : rule ∈ Catalog.builtin.rules) :
    rule.id ≠ readErrorId := by
  intro same
  apply readErrorId_notMem_builtinIds
  rw [← same, ← Catalog.builtin_ids]
  exact List.mem_map_of_mem isBuiltin

/-- Findings of an audit with one id have one severity. -/
theorem severity_eq_of_ruleId_eq
    (member : finding ∈ (reportOn tree target config).findings)
    (otherMember : other ∈ (reportOn tree target config).findings)
    (same : ruleId finding = ruleId other) :
    finding.severity = other.severity := by
  rcases ruleId_of_mem_reportOn member with
    ⟨rule, isBuiltin, named, severity⟩ | ⟨named, severity⟩ <;>
  rcases ruleId_of_mem_reportOn otherMember with
    ⟨otherRule, otherBuiltin, otherNamed, otherSeverity⟩ | ⟨otherNamed, otherSeverity⟩
  · have sameRule := Catalog.eq_of_builtin_id_eq isBuiltin otherBuiltin
      (named.symm.trans (same.trans otherNamed))
    rw [severity, otherSeverity, sameRule]
  · exact absurd (named.symm.trans (same.trans otherNamed)) (id_ne_readErrorId isBuiltin)
  · exact absurd (otherNamed.symm.trans (same.symm.trans named))
      (id_ne_readErrorId otherBuiltin)
  · rw [severity, otherSeverity]

/-- Lines are counted from one. -/
theorem one_le_line_of_mem_reportOn
    {line : Nat}
    (member : finding ∈ (reportOn tree target config).findings)
    (isLine : finding.line = some line) :
    1 ≤ line := by
  rcases kind_of_mem_reportOn member with findsMatch | isFailure
  · obtain ⟨_, _, _, _, rule, _, _, _, _, _, _, _, _, isMatch⟩ := findsMatch
    obtain ⟨number, _, _, isNumber, positive, _⟩ := isMatch.quotes
    rw [isNumber] at isLine
    rwa [← Option.some.inj isLine]
  · rw [isFailure.line] at isLine
    cases isLine

/-! ## Results and rules of a log -/

/-- The log of a report, and its text as far as numbers are machine words, holds a
result for every finding that says what the finding says. Its rules have increasing ids,
those of the results and no others, and each takes its name and level from the first
finding with its id. In the log of an audit, results have the level of their rule and
lines are counted from one. -/
theorem sarif_log_is_consistent (report : Report) :
    ∃ contents : Contents,
      Contents.ofJson? (log report) = some contents ∧
      ((∀ finding ∈ report.findings, finding.FitsWords) →
        (Json.parse? (report.render .sarif)).bind Contents.ofJson? = some contents) ∧
      List.Forall₂ (fun finding (result : Result) => result.Describes finding)
        report.findings contents.results ∧
      (contents.rules.map RuleEntry.id).Pairwise (· < ·) ∧
      (∀ id, id ∈ contents.rules.map RuleEntry.id ↔
        id ∈ contents.results.map Result.ruleId) ∧
      (∀ rule ∈ contents.rules, rule.StandsFor report.findings) ∧
      ∀ tree target config, (withConfig tree target config).result = .ok report →
        ∀ result ∈ contents.results,
          (∀ rule ∈ contents.rules, rule.id = result.ruleId → rule.level = result.level) ∧
          ∀ region, result.region = some region → 1 ≤ region.startLine := by
  have indexes := Report.Sarif.rules_indexesFirst report.findings
  refine ⟨contentsOf report, Contents.ofJson?_log report,
    Report.Sarif.ofJson?_parse?_render, ?_, ?_, ?_, ?_, ?_⟩
  · apply List.forall₂_map_right_iff.mpr
    exact List.forall₂_same.mpr fun finding _ => Report.Sarif.resultOf_describes finding
  · rw [contentsOf, List.map_map, List.pairwise_map]
    exact indexes.isIndex
  · intro id
    have sameIds : (contentsOf report).rules.map RuleEntry.id =
        (Report.Sarif.rules report.findings).map Prod.fst := by
      rw [contentsOf, List.map_map]
      rfl
    rw [sameIds, indexes.mem_ids_iff, contentsOf, List.map_map, List.mem_map]
    rfl
  · intro rule member
    obtain ⟨entry, isEntry, rfl⟩ := List.mem_map.mp member
    exact Report.Sarif.standsFor_of_mem_rules isEntry
  · intro tree target config succeeds result member
    obtain ⟨_, _, rfl⟩ := result_eq_ok_iff.mp succeeds
    obtain ⟨finding, isFinding, rfl⟩ := List.mem_map.mp member
    constructor
    · intro rule isRule same
      obtain ⟨entry, isEntry, rfl⟩ := List.mem_map.mp isRule
      obtain ⟨before, first, after, split, _, named, _, level⟩ :=
        Report.Sarif.standsFor_of_mem_rules isEntry
      have isFirst : first ∈ (reportOn tree target config).findings := by
        rw [split]
        simp
      rw [level, severity_eq_of_ruleId_eq isFirst isFinding (named.trans same)]
      rfl
    · intro region isRegion
      have isLine :=
        ((Report.Sarif.resultOf_describes finding).region_eq region isRegion).1
      exact one_le_line_of_mem_reportOn isFinding isLine

theorem sarif_log_is_consistent_sample :
    (∃ contents,
      (Json.parse? (Report.Sample.awkward.render .sarif)).bind Contents.ofJson? =
        some contents ∧ contents.results.length = 3) ∧
      ∃ report contents,
        (withConfig Sample.tree Sample.target Sample.config).result = .ok report ∧
        Contents.ofJson? (log report) = some contents ∧
        ∀ result ∈ contents.results, ∀ rule ∈ contents.rules, rule.id = result.ruleId →
          rule.level = result.level := by
  constructor
  · obtain ⟨contents, _, parsed, describes, _⟩ :=
      sarif_log_is_consistent Report.Sample.awkward
    refine ⟨contents, parsed ?_, describes.length_eq.symm⟩
    simp [Report.Sample.awkward, Finding.FitsWords, Finding.matched, Finding.unreadable,
      Number.wordRange]
  · have succeeds := result_eq_reportOn Sample.target_exists Sample.config_known
    obtain ⟨contents, isRead, _, _, _, _, _, ofAudit⟩ := sarif_log_is_consistent _
    refine ⟨_, contents, succeeds, isRead, ?_⟩
    intro result member
    exact (ofAudit _ _ _ succeeds result member).1

end Audit
end ScriptAudit
