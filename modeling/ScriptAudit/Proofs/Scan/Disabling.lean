import ScriptAudit.Proofs.Scan.Accounting

/-!
# Switching rules off

Switching rules off removes their findings from a scan and changes nothing else. The
rules are filtered before a text is searched, so that filtering has to be carried
through the lines of a text, the visits of a walk and the whole scan.
-/

namespace ScriptAudit

/-- Whether a finding does not come from one of some rules. What could not be read
comes from no rule. -/
def Finding.isKept (disabled : List String) (finding : Finding) : Bool :=
  finding.ruleId.all fun id => !disabled.contains id

namespace RuleSet

theorem rulesFor_nil (language : Language) :
    rulesFor ⟨[]⟩ language = Catalog.builtin.rulesFor language := by
  refine List.filter_eq_self.mpr fun rule _ => ?_
  simp [enables]

/-- The applied rules are the built-in ones without those that are switched off. -/
theorem rulesFor_eq_filter (rules : RuleSet) (language : Language) :
    rules.rulesFor language = (rulesFor ⟨[]⟩ language).filter rules.enables := by
  rw [rulesFor_nil, rulesFor]

end RuleSet

namespace Scan

variable {tree : FileTree} {root : Path}

/-- Searching for some of the rules finds their hits among all hits, in order. -/
theorem hits_filter
    (wanted : Rule → Bool)
    (rules : List Rule)
    (text : List Char) :
    hits (rules.filter wanted) text =
      (hits rules text).filter fun hit => wanted hit.rule := by
  unfold hits
  induction rules with
  | nil => rfl
  | cons rule rules inductionHypothesis =>
      have ofRule : (hitsOf (numberedLines text) rule).filter
          (fun hit => wanted hit.rule) =
          if wanted rule then hitsOf (numberedLines text) rule else [] := by
        cases isWanted : wanted rule with
        | true =>
            refine List.filter_eq_self.mpr fun hit member => ?_
            rw [rule_of_mem_hitsOf member, isWanted]
        | false =>
            refine List.filter_eq_nil_iff.mpr fun hit member => ?_
            simp [rule_of_mem_hitsOf member, isWanted]
      rw [List.flatMap_cons, List.filter_append, ofRule, ← inductionHypothesis]
      cases isWanted : wanted rule <;> simp [isWanted]

/-- The findings in a text with rules switched off are the kept ones of all. -/
theorem content_eq_filter
    (disabled : List String)
    (file : String)
    (text : List Char)
    (language : Language) :
    content ⟨disabled⟩ file text language =
      (content ⟨[]⟩ file text language).filter (Finding.isKept disabled) := by
  rw [content, RuleSet.rulesFor_eq_filter, hits_filter, content, List.filter_map]
  rfl

/-- A visit contributes the kept ones of the findings that it contributes to a full
scan, and counts the same files. -/
theorem visit_disabled
    (tree : FileTree)
    (disabled : List String)
    (root : Path)
    (visited : Visit) :
    (visit tree ⟨disabled⟩ root visited).filesScanned =
        (visit tree ⟨[]⟩ root visited).filesScanned ∧
      (visit tree ⟨disabled⟩ root visited).findings =
        (visit tree ⟨[]⟩ root visited).findings.filter (Finding.isKept disabled) := by
  cases visited.kind tree with
  | failed path error => exact ⟨rfl, rfl⟩
  | other noScript =>
      obtain ⟨noFiles, noFindings⟩ := visit_of_not_isScript noScript ⟨disabled⟩ root
      obtain ⟨fullNoFiles, fullNoFindings⟩ := visit_of_not_isScript noScript ⟨[]⟩ root
      rw [noFiles, noFindings, fullNoFiles, fullNoFindings]
      exact ⟨rfl, rfl⟩
  | unreadable isFile classified failure =>
      rw [visit_of_read_error isFile classified failure,
        visit_of_read_error isFile classified failure]
      exact ⟨rfl, rfl⟩
  | scanned isFile classified readable =>
      rw [visit_of_read_ok isFile classified readable,
        visit_of_read_ok isFile classified readable, Harvest.scanned_findings,
        Harvest.scanned_findings, content_eq_filter]
      exact ⟨rfl, rfl⟩

/-- A scan with rules switched off has the kept ones of the findings of a full scan,
in the same order, and counts the same files. -/
theorem directory_disabled
    (tree : FileTree)
    (disabled : List String)
    (root start : Path) :
    (directory tree ⟨disabled⟩ root start).filesScanned =
        (directory tree ⟨[]⟩ root start).filesScanned ∧
      (directory tree ⟨disabled⟩ root start).findings =
        (directory tree ⟨[]⟩ root start).findings.filter (Finding.isKept disabled) := by
  constructor
  · rw [directory_eq_visits, directory_eq_visits, (visits_counts _ _ _ _).1,
      (visits_counts _ _ _ _).1]
  · rw [directory_eq_visits, directory_eq_visits, visits_findings, visits_findings,
      List.filter_flatMap]
    simp only [(visit_disabled tree disabled root _).2]

/-- The findings of a visit that come from no rule are those of low severity. -/
theorem ruleId_eq_none_iff_of_mem_visit
    {rules : RuleSet}
    {visited : Visit}
    {finding : Finding}
    (member : finding ∈ (visit tree rules root visited).findings) :
    finding.ruleId = none ↔ finding.severity = .low := by
  cases visited.kind tree with
  | failed path error =>
      obtain rfl := List.mem_singleton.mp member
      exact iff_of_true rfl rfl
  | other noScript =>
      rw [(visit_of_not_isScript noScript rules root).2] at member
      cases member
  | unreadable isFile classified failure =>
      rw [visit_of_read_error isFile classified failure] at member
      obtain rfl := List.mem_singleton.mp member
      exact iff_of_true rfl rfl
  | scanned isFile classified readable =>
      rw [visit_of_read_ok isFile classified readable, Harvest.scanned_findings] at member
      refine iff_of_false ?_ (severity_ne_low_of_mem_content member)
      obtain ⟨rule, _, line, number, _, _, rfl⟩ := mem_content_iff.mp member
      exact Option.some_ne_none rule.id

/-- The findings that come from no rule are those of low severity. -/
theorem ruleId_eq_none_iff
    {rules : RuleSet}
    {start : Path}
    {finding : Finding}
    (member : finding ∈ (directory tree rules root start).findings) :
    finding.ruleId = none ↔ finding.severity = .low := by
  rw [directory_eq_visits, visits_findings] at member
  obtain ⟨visited, _, found⟩ := List.mem_flatMap.mp member
  exact ruleId_eq_none_iff_of_mem_visit found

end Scan
end ScriptAudit
