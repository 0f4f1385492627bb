import Mathlib.Data.List.Basic
import ScriptAudit.Scan

/-!
# The findings in a text

A finding in a text is a line of the text on which an enabled rule of its language
matches.
-/

namespace ScriptAudit

theorem Tier.severity_eq_high_iff {tier : Tier} :
    tier.severity = .high ↔ tier = .high := by
  cases tier <;> simp [severity]

/-- The rules that are applied to a language are the built-in ones that are written
for it and not switched off. -/
theorem RuleSet.mem_rulesFor_iff
    {rules : RuleSet}
    {language : Language}
    {rule : Rule} :
    rule ∈ rules.rulesFor language ↔
      rule ∈ Catalog.builtin.rules ∧ rule.language = language ∧
        rule.id ∉ rules.disabled := by
  rw [rulesFor, List.mem_filter, Catalog.rulesFor, List.mem_filter]
  simp [enables, and_assoc]

namespace Scan

variable {rules : RuleSet} {language : Language} {file : String} {text : List Char}

theorem mem_hitsOf_iff
    {lines : List (Pattern.Line × Nat)}
    {rule : Rule}
    {hit : Hit} :
    hit ∈ hitsOf lines rule ↔
      ∃ line number, (line, number) ∈ lines ∧ rule.pattern.isMatch line = true ∧
        hit = ⟨rule, number, line, rule.pattern.verdict line⟩ := by
  rw [hitsOf, List.mem_filterMap]
  constructor
  · rintro ⟨⟨line, number⟩, member, decided⟩
    obtain ⟨matched, rfl⟩ : _ ∧
        ⟨rule, number, line, rule.pattern.verdict line⟩ = hit := by
      simpa using decided
    exact ⟨line, number, member, matched, rfl⟩
  · rintro ⟨line, number, member, matched, rfl⟩
    exact ⟨(line, number), member, if_pos matched⟩

theorem rule_of_mem_hitsOf
    {lines : List (Pattern.Line × Nat)}
    {rule : Rule}
    {hit : Hit}
    (member : hit ∈ hitsOf lines rule) :
    hit.rule = rule := by
  obtain ⟨line, number, _, _, rfl⟩ := mem_hitsOf_iff.mp member
  rfl

/-- The findings in a text are the lines on which some applied rule matches. -/
theorem mem_content_iff {finding : Finding} :
    finding ∈ content rules file text language ↔
      ∃ rule ∈ rules.rulesFor language, ∃ line number,
        (line, number) ∈ numberedLines text ∧ rule.pattern.isMatch line = true ∧
          finding = .matched file number rule.id rule.description
            rule.tier.severity line.toList := by
  simp only [content, hits, List.mem_map, List.mem_flatMap, mem_hitsOf_iff]
  constructor
  · rintro ⟨_, ⟨rule, applied, line, number, member, matched, rfl⟩, rfl⟩
    exact ⟨rule, applied, line, number, member, matched, rfl⟩
  · rintro ⟨rule, applied, line, number, member, matched, rfl⟩
    exact ⟨_, ⟨rule, applied, line, number, member, matched, rfl⟩, rfl⟩

theorem exists_number_iff {line : Pattern.Line} :
    (∃ number, (line, number) ∈ numberedLines text) ↔
      ∃ chars ∈ Text.lines text, line = chars.toArray := by
  have numbered : (∃ number, (line, number) ∈ numberedLines text) ↔
      line ∈ (numberedLines text).map Prod.fst := by simp
  rw [numbered, numberedLines, List.zipIdx_map_fst, List.mem_map]
  simp only [eq_comm]

/-- A text has a finding of high severity exactly when a rule of the high tier
matches on one of its lines. -/
theorem exists_high_mem_content_iff :
    (∃ finding ∈ content rules file text language, finding.severity = .high) ↔
      ∃ rule ∈ rules.rulesFor language, rule.tier = .high ∧
        ∃ chars ∈ Text.lines text, rule.pattern.isMatch chars.toArray = true := by
  constructor
  · rintro ⟨finding, member, high⟩
    obtain ⟨rule, applied, line, number, numbered, matched, rfl⟩ :=
      mem_content_iff.mp member
    obtain ⟨chars, present, rfl⟩ := exists_number_iff.mp ⟨number, numbered⟩
    exact ⟨rule, applied, Tier.severity_eq_high_iff.mp high, chars, present, matched⟩
  · rintro ⟨rule, applied, high, chars, present, matched⟩
    obtain ⟨number, numbered⟩ := exists_number_iff.mpr ⟨chars, present, rfl⟩
    exact ⟨_, mem_content_iff.mpr ⟨rule, applied, _, number, numbered, matched, rfl⟩,
      Tier.severity_eq_high_iff.mpr high⟩

theorem severity_ne_low_of_mem_content
    {finding : Finding}
    (member : finding ∈ content rules file text language) :
    finding.severity ≠ .low := by
  obtain ⟨rule, _, line, number, _, _, rfl⟩ := mem_content_iff.mp member
  change rule.tier.severity ≠ .low
  cases rule.tier <;> decide

end Scan
end ScriptAudit
