import Mathlib.Data.List.Perm.Basic
import ScriptAudit.Proofs.Catalog.Listing
import ScriptAudit.Proofs.Scan.Disabling
import ScriptAudit.Proofs.Scan.Order
import ScriptAudit.Proofs.Text.Pieces

/-!
# Findings rule by rule

The findings in a text are those of each applied rule, one rule after the other. A rule
has one finding on every line that it matches and none elsewhere, so that a text can be
scanned part by part: the lines of one part have no influence on what is found in
another.
-/

namespace ScriptAudit

/-- Whether a finding comes from a rule. -/
def Finding.isOf (rule : Rule) (finding : Finding) : Bool :=
  finding.ruleId = some rule.id

/-- A finding some lines further down. -/
def Finding.shiftedBy (count : Nat) (finding : Finding) : Finding :=
  { finding with line := finding.line.map (· + count) }

/-- No two rules that are applied to a language share an id. -/
theorem RuleSet.rulesFor_ids_nodup (rules : RuleSet) (language : Language) :
    ((rules.rulesFor language).map Rule.id).Nodup :=
  Catalog.builtin_ids_nodup.sublist
    ((List.filter_sublist.trans List.filter_sublist).map Rule.id)

namespace Scan

variable {rules : RuleSet} {language : Language} {file : String}
  {text : List Char} {rule : Rule}

/-- The findings of one rule in a text, in the order of the lines. -/
def findingsOf (file : String) (text : List Char) (rule : Rule) : List Finding :=
  (hitsOf (numberedLines text) rule).map (Hit.finding file)

theorem content_eq_flatMap
    (rules : RuleSet)
    (file : String)
    (text : List Char)
    (language : Language) :
    content rules file text language =
      (rules.rulesFor language).flatMap (findingsOf file text) := by
  rw [content, hits, List.map_flatMap]
  rfl

theorem mem_findingsOf_iff {finding : Finding} :
    finding ∈ findingsOf file text rule ↔
      ∃ index chars, (Text.lines text)[index]? = some chars ∧
        rule.pattern.isMatch chars.toArray = true ∧
        finding = .matched file (index + 1) rule.id rule.description
          rule.tier.severity chars := by
  simp only [findingsOf, List.mem_map, mem_hitsOf_iff, mem_numberedLines_iff]
  constructor
  · rintro ⟨_, ⟨_, _, ⟨index, chars, present, rfl, rfl⟩, isMatch, rfl⟩, rfl⟩
    exact ⟨index, chars, present, isMatch, rfl⟩
  · rintro ⟨index, chars, present, isMatch, rfl⟩
    exact ⟨_, ⟨_, _, ⟨index, chars, present, rfl, rfl⟩, isMatch, rfl⟩, rfl⟩

/-- The findings of an applied rule among all findings in a text. -/
theorem filter_isOf_content (applied : rule ∈ rules.rulesFor language) :
    (content rules file text language).filter (Finding.isOf rule) =
      findingsOf file text rule := by
  have alone : (rules.rulesFor language).filter
      (fun other => some other.id = some rule.id) = [rule] := by
    apply filter_eq_singleton (rules.rulesFor_ids_nodup language) applied
    · simp
    · simp
  have ofRule : (hits (rules.rulesFor language) text).filter
      (Finding.isOf rule ∘ Hit.finding file) = hits [rule] text := by
    rw [← alone, hits_filter]
    rfl
  rw [content, List.filter_map, ofRule, hits, List.flatMap_singleton, findingsOf]

/-! ## One finding for every match -/

/-- A rule has at most one finding on a line. -/
theorem findingsOf_lines_nodup (file : String) (text : List Char) (rule : Rule) :
    ((findingsOf file text rule).map Finding.line).Nodup := by
  rw [findingsOf, List.map_map]
  apply List.pairwise_map.mpr
  apply (hitsOf_pairwise text rule).imp
  intro first second inOrder same
  exact Nat.ne_of_lt inOrder (Option.some.inj same)

/-- On a line that a rule matches it has one finding, and on any other it has none. -/
theorem filter_line_findingsOf
    {index : Nat}
    {chars : List Char}
    (present : (Text.lines text)[index]? = some chars) :
    (findingsOf file text rule).filter (fun finding => finding.line = some (index + 1)) =
      if rule.pattern.isMatch chars.toArray then
        [.matched file (index + 1) rule.id rule.description rule.tier.severity chars]
      else [] := by
  cases isMatch : rule.pattern.isMatch chars.toArray with
  | true =>
      apply filter_eq_singleton (findingsOf_lines_nodup file text rule)
      · exact mem_findingsOf_iff.mpr ⟨index, chars, present, isMatch, rfl⟩
      · exact decide_eq_true rfl
      · intro other _ onLine
        exact of_decide_eq_true onLine
  | false =>
      apply List.filter_eq_nil_iff.mpr
      intro finding member onLine
      obtain ⟨other, otherChars, otherPresent, otherMatch, rfl⟩ :=
        mem_findingsOf_iff.mp member
      obtain rfl : other = index := by simpa [Finding.matched] using onLine
      obtain rfl := Option.some.inj (present.symm.trans otherPresent)
      rw [isMatch] at otherMatch
      cases otherMatch

/-- The place of a finding: that of its rule among those that are applied, and its line.
-/
def placeAmong (applied : List Rule) (finding : Finding) : Nat × Nat :=
  ((applied.map fun rule => some rule.id).idxOf finding.ruleId, finding.line.getD 0)

theorem placeAmong_of_mem_rankedHits
    {applied : List Rule}
    {index : Nat}
    {hit : Hit}
    (distinct : (applied.map Rule.id).Nodup)
    (member : (index, hit) ∈ rankedHits applied text) :
    placeAmong applied (hit.finding file) = (index, hit.number) := by
  obtain ⟨rule, number, chars, isRule, _, _, rfl⟩ := mem_rankedHits_iff.mp member
  obtain ⟨bound, isRule⟩ := List.getElem?_eq_some_iff.mp isRule
  have distinctIds : (applied.map fun rule => some rule.id).Nodup := by
    have some_ids := distinct.map (Option.some_injective String)
    rwa [List.map_map] at some_ids
  have place := distinctIds.idxOf_getElem index (by simpa using bound)
  rw [List.getElem_map, isRule] at place
  exact Prod.ext place rfl

/-- Findings in a text go by rule and then by line. -/
theorem content_pairwise
    (rules : RuleSet)
    (file : String)
    (text : List Char)
    (language : Language) :
    (content rules file text language).Pairwise fun first second =>
      Prod.Lex (· < ·) (· < ·) (placeAmong (rules.rulesFor language) first)
        (placeAmong (rules.rulesFor language) second) := by
  have distinct := rules.rulesFor_ids_nodup language
  rw [content, ← rankedHits_map_snd, List.map_map, List.pairwise_map]
  apply (rankedHits_pairwise (rules.rulesFor_pairwise language) text).imp_of_mem
  rintro ⟨index, hit⟩ ⟨otherIndex, otherHit⟩ member otherMember ⟨inOrder, _⟩
  rw [Function.comp, Function.comp, placeAmong_of_mem_rankedHits distinct member,
    placeAmong_of_mem_rankedHits distinct otherMember, Prod.lex_def]
  exact inOrder

/-- Scanning a text gives exactly one finding for every line and every applied rule that
matches it, and no other findings. They go by rule and then by line. Rules of other
languages and rules that are switched off find nothing. -/
theorem content_has_one_finding_per_match
    (rules : RuleSet)
    (file : String)
    (text : List Char)
    (language : Language) :
    let found := content rules file text language
    (∀ rule ∈ Catalog.builtin.rules, rule.language = language → rule.id ∉ rules.disabled →
      ∀ index chars, (Text.lines text)[index]? = some chars →
        found.filter (fun finding =>
            finding.ruleId = some rule.id ∧ finding.line = some (index + 1)) =
          if rule.pattern.isMatch chars.toArray then
            [.matched file (index + 1) rule.id rule.description rule.tier.severity chars]
          else []) ∧
    (∀ finding ∈ found, ∃ rule ∈ rules.rulesFor language, ∃ index chars,
      (Text.lines text)[index]? = some chars ∧ rule.pattern.isMatch chars.toArray = true ∧
        finding =
          .matched file (index + 1) rule.id rule.description rule.tier.severity chars) ∧
    found.Pairwise (fun first second =>
      Prod.Lex (· < ·) (· < ·) (placeAmong (rules.rulesFor language) first)
        (placeAmong (rules.rulesFor language) second)) ∧
    ∀ rule ∈ Catalog.builtin.rules, rule.language ≠ language ∨ rule.id ∈ rules.disabled →
      ∀ finding ∈ found, finding.ruleId ≠ some rule.id := by
  intro found
  refine ⟨?_, ?_, content_pairwise rules file text language, ?_⟩
  · intro rule isBuiltin spoken enabled index chars present
    have applied := RuleSet.mem_rulesFor_iff.mpr ⟨isBuiltin, spoken, enabled⟩
    rw [← filter_line_findingsOf present,
      ← filter_isOf_content applied, List.filter_filter]
    apply List.filter_congr
    intro finding _
    simp [Finding.isOf, and_comm]
  · intro finding member
    rw [show found = _ from content_eq_flatMap rules file text language] at member
    obtain ⟨rule, applied, found⟩ := List.mem_flatMap.mp member
    exact ⟨rule, applied, mem_findingsOf_iff.mp found⟩
  · intro rule isBuiltin idle finding member named
    obtain ⟨other, applied, _, _, _, _, rfl⟩ := mem_content_iff.mp member
    obtain ⟨otherBuiltin, spoken, enabled⟩ := RuleSet.mem_rulesFor_iff.mp applied
    obtain rfl :=
      Catalog.eq_of_builtin_id_eq otherBuiltin isBuiltin (Option.some.inj named)
    rcases idle with foreign | disabled
    · exact foreign spoken
    · exact enabled disabled

/-! ## Scanning a text part by part -/

theorem numberedLines_append (first second : List Char) :
    numberedLines (first ++ '\n' :: second) =
      numberedLines first ++ (numberedLines second).map
        (Prod.map id (· + (Text.lines first).length)) := by
  have cut : Text.lines (first ++ '\n' :: second) = Text.lines first ++
      Text.lines second :=
    Text.splitAt_append_cons rfl first second
  rw [numberedLines, cut, List.map_append, List.zipIdx_append,
    numberedLines, numberedLines, List.map_snd_add_zipIdx_eq_zipIdx,
    List.length_map, Nat.add_comm]

/-- The findings of a rule behind a line feed are those in what stands there, further
down. -/
theorem findingsOf_append (file : String) (first second : List Char) (rule : Rule) :
    findingsOf file (first ++ '\n' :: second) rule =
      findingsOf file first rule ++ (findingsOf file second rule).map
        (Finding.shiftedBy (Text.lines first).length) := by
  have shifted : ∀ count,
      (hitsOf ((numberedLines second).map (Prod.map id (· + count))) rule).map
          (Hit.finding file) =
        (findingsOf file second rule).map (Finding.shiftedBy count) := by
    intro count
    rw [findingsOf, hitsOf, hitsOf, List.filterMap_map,
      List.map_filterMap, List.map_filterMap, List.map_filterMap]
    congr 1
    funext numbered
    obtain ⟨line, number⟩ := numbered
    cases isMatch : (rule.pattern.verdict line).isMatch <;>
      simp [isMatch, Hit.finding, Finding.matched, Finding.shiftedBy]
  rw [← shifted, findingsOf, numberedLines_append, hitsOf, List.filterMap_append,
    List.map_append]
  rfl

/-- A text that is cut at a line feed can be scanned part by part: each rule finds what
it finds in the first part and then what it finds in the second, as many lines further
down as the first part has. -/
theorem content_splits_at_line_feed
    (rules : RuleSet)
    (file : String)
    (language : Language)
    (first second : List Char) :
    let whole := content rules file (first ++ '\n' :: second) language
    let before := content rules file first language
    let behind := content rules file second language
    let shift := Finding.shiftedBy (Text.lines first).length
    whole = (rules.rulesFor language).flatMap (fun rule =>
        before.filter (Finding.isOf rule) ++
          (behind.filter (Finding.isOf rule)).map shift) ∧
      (∀ rule ∈ rules.rulesFor language, whole.filter (Finding.isOf rule) =
        before.filter (Finding.isOf rule) ++
          (behind.filter (Finding.isOf rule)).map shift) ∧
      whole.Perm (before ++ behind.map shift) := by
  intro whole before behind shift
  have ofRule : ∀ rule ∈ rules.rulesFor language,
      findingsOf file (first ++ '\n' :: second) rule =
      before.filter (Finding.isOf rule) ++
        (behind.filter (Finding.isOf rule)).map shift := by
    intro rule applied
    rw [findingsOf_append, filter_isOf_content applied, filter_isOf_content applied]
  refine ⟨?_, ?_, ?_⟩
  · apply (content_eq_flatMap _ _ _ _).trans
    exact List.flatMap_congr ofRule
  · intro rule applied
    exact (filter_isOf_content applied).trans (ofRule rule applied)
  · have gathered : whole = (rules.rulesFor language).flatMap fun rule =>
        findingsOf file first rule ++ (findingsOf file second rule).map shift := by
      apply (content_eq_flatMap _ _ _ _).trans
      exact List.flatMap_congr fun rule _ => findingsOf_append file first second rule
    have shifted : behind.map shift = (rules.rulesFor language).flatMap fun rule =>
        (findingsOf file second rule).map shift := by
      rw [← List.map_flatMap, ← content_eq_flatMap]
    rw [gathered, shifted, show before = _ from content_eq_flatMap _ _ _ _]
    exact (List.flatMap_append_perm _ _ _).symm

end Scan
end ScriptAudit
