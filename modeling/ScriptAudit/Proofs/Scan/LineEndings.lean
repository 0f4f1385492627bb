import Mathlib.Data.List.Flatten
import ScriptAudit.Proofs.Catalog.LineEndings
import ScriptAudit.Proofs.Scan.ByRule
import ScriptAudit.Proofs.Text.Excerpt

/-!
# Line endings make no difference

A text whose line feeds are preceded by carriage returns has the same lines, all but the
last with a return behind them. The return is trimmed from what is quoted, so a finding
says the same about both lines. Most rules have the same findings in both texts. The
three whose construct may end in a blank keep their findings and gain some where the
return is that blank.
-/

namespace ScriptAudit

/-! ## Lines with returns -/

namespace Text

/-- A text with a carriage return in front of every line feed. -/
def withReturns (text : List Char) : List Char :=
  text.flatMap fun char => if char = '\n' then ['\r', '\n'] else [char]

/-- A line stands for another one if it is the same, or the same with a carriage return
behind it. -/
def MayHaveReturn (line other : List Char) : Prop :=
  other = line ∨ other = line ++ ['\r']

theorem withReturns_of_notMem
    {line : List Char}
    (whole : ∀ char ∈ line, (char == '\n') = false) :
    withReturns line = line := by
  induction line with
  | nil => rfl
  | cons char line inductionHypothesis =>
      obtain ⟨here, later⟩ := List.forall_mem_cons.mp whole
      rw [withReturns, List.flatMap_cons, ← withReturns, inductionHypothesis later,
        if_neg (by simpa using here), List.singleton_append]

/-- The lines of a text with returns are its lines, possibly with returns. -/
theorem lines_withReturns (text : List Char) :
    List.Forall₂ MayHaveReturn (lines text) (lines (withReturns text)) := by
  induction text using piecewise_induction (· == '\n') with
  | whole text whole =>
      rw [withReturns_of_notMem whole, lines, splitAt_of_forall_not whole]
      exact .cons (.inl rfl) .nil
  | cut line mark rest whole marks inductionHypothesis =>
      obtain rfl : mark = '\n' := by simpa using marks
      have split : withReturns (line ++ '\n' :: rest) =
          (line ++ ['\r']) ++ '\n' :: withReturns rest := by
        rw [withReturns, List.flatMap_append, ← withReturns, withReturns_of_notMem whole]
        simp [withReturns]
      have alsoWhole : ∀ char ∈ line ++ ['\r'], (char == '\n') = false := by
        rw [List.forall_mem_append]
        exact ⟨whole, by decide⟩
      rw [split, lines, lines, splitAt_piece_cons whole rfl,
        splitAt_piece_cons alsoWhole rfl]
      exact .cons (.inr rfl) inductionHypothesis

/-- Every line of a text with returns stands for the line with the same number. -/
theorem exists_mayHaveReturn
    {text other : List Char}
    {index : Nat}
    (present : (lines (withReturns text))[index]? = some other) :
    ∃ line, (lines text)[index]? = some line ∧ MayHaveReturn line other := by
  have listed := lines_withReturns text
  obtain ⟨inside, rfl⟩ := List.getElem?_eq_some_iff.mp present
  have plainInside : index < (lines text).length := listed.length_eq ▸ inside
  exact ⟨_, List.getElem?_eq_getElem plainInside, listed.get plainInside inside⟩

theorem trim_concat
    {blank : Char}
    (isBlank : isBlank blank = true)
    (line : List Char) :
    trim (line ++ [blank]) = trim line := by
  rw [trim, trim, List.dropWhile_append]
  split
  · rename_i empty
    rw [List.isEmpty_iff.mp empty]
    simp [isBlank]
  · rw [List.reverse_append, List.reverse_singleton, List.singleton_append,
      List.dropWhile_cons_of_pos isBlank]

theorem MayHaveReturn.excerpt_eq
    {line other : List Char}
    (mayHave : MayHaveReturn line other) :
    excerpt other = excerpt line := by
  rcases mayHave with rfl | rfl
  · rfl
  · rw [excerpt, excerpt, trim_concat (by decide)]

end Text

namespace Scan

open Text (MayHaveReturn withReturns)
open Catalog (blankEndRuleIds)

variable {rules : RuleSet} {language : Language} {file : String}
  {text : List Char} {rule : Rule}

/-! ## Findings line by line -/

/-- The finding of a rule on a line with a number, if the rule matches it. -/
def lineFinding? (file : String) (rule : Rule) (numbered : List Char × Nat) :
    Option Finding :=
  if rule.pattern.isMatch numbered.1.toArray then
    some (.matched file numbered.2 rule.id rule.description rule.tier.severity numbered.1)
  else none

theorem findingsOf_eq_filterMap (file : String) (text : List Char) (rule : Rule) :
    findingsOf file text rule =
      ((Text.lines text).zipIdx 1).filterMap (lineFinding? file rule) := by
  rw [findingsOf, numberedLines, List.zipIdx_map, hitsOf, List.map_filterMap,
    List.filterMap_map]
  congr 1
  funext numbered
  obtain ⟨line, number⟩ := numbered
  cases isMatch : (rule.pattern.verdict line.toArray).isMatch <;>
    simp [lineFinding?, Pattern.Compiled.isMatch, isMatch, Hit.finding]

theorem forall₂_zipIdx
    {related : α → β → Prop}
    {items : List α}
    {others : List β}
    (areRelated : List.Forall₂ related items others)
    (first : Nat) :
    List.Forall₂ (fun item other => related item.1 other.1 ∧ item.2 = other.2)
      (items.zipIdx first) (others.zipIdx first) := by
  induction areRelated generalizing first with
  | nil => exact .nil
  | cons here _ inductionHypothesis =>
      exact .cons ⟨here, rfl⟩ (inductionHypothesis (first + 1))

theorem filterMap_eq_of_forall₂
    {find : α → Option γ}
    {findOther : β → Option γ}
    {items : List α}
    {others : List β}
    (same : List.Forall₂ (fun item other => find item = findOther other) items others) :
    items.filterMap find = others.filterMap findOther := by
  induction same with
  | nil => rfl
  | cons here _ inductionHypothesis =>
      rw [List.filterMap_cons, List.filterMap_cons, here, inductionHypothesis]

theorem filterMap_sublist_of_forall₂
    {find : α → Option γ}
    {findOther : β → Option γ}
    {items : List α}
    {others : List β}
    (kept : List.Forall₂
      (fun item other => ∀ found, find item = some found → findOther other = some found)
      items others) :
    (items.filterMap find).Sublist (others.filterMap findOther) := by
  induction kept with
  | nil => exact .slnil
  | @cons item other _ _ here _ inductionHypothesis =>
      cases found : find item with
      | some result =>
          rw [List.filterMap_cons_some found,
            List.filterMap_cons_some (here result found)]
          exact inductionHypothesis.cons_cons result
      | none =>
          rw [List.filterMap_cons_none found]
          refine inductionHypothesis.trans ?_
          exact (List.sublist_cons_self other _).filterMap findOther

/-! ## Findings with and without returns -/

/-- Whether a finding comes from a rule whose construct may end in a blank character. -/
def mayEndBlank (finding : Finding) : Bool :=
  finding.ruleId.any (· ∈ blankEndRuleIds)

/-- A rule can be searched for to the end of every line, with and without a return. -/
def SearchesThrough (rule : Rule) (text : List Char) : Prop :=
  ∀ line ∈ Text.lines text,
    ¬rule.GivesUpOn line.toArray ∧ ¬rule.GivesUpOn (line ++ ['\r']).toArray

section FindingsOf

variable (isBuiltin : rule ∈ Catalog.builtin.rules) (searches : SearchesThrough rule text)

include isBuiltin searches

/-- A line of a text with returns, with the line that it stands for. -/
theorem forall₂_lines_withReturns :
    List.Forall₂
      (fun line other => Text.excerpt other = Text.excerpt line ∧
        (rule.pattern.isMatch line.toArray = true →
          rule.pattern.isMatch other.toArray = true) ∧
        (rule.id ∉ blankEndRuleIds →
          rule.pattern.isMatch other.toArray = rule.pattern.isMatch line.toArray))
      (Text.lines text) (Text.lines (withReturns text)) := by
  have listed := (List.forall₂_and_left _ _).mpr ⟨searches, Text.lines_withReturns text⟩
  refine listed.imp ?_
  rintro line other ⟨⟨searched, alsoSearched⟩, mayHave⟩
  refine ⟨mayHave.excerpt_eq, ?_⟩
  rcases mayHave with rfl | rfl
  · exact ⟨id, fun _ => rfl⟩
  · rw [← List.push_toArray] at alsoSearched ⊢
    exact ⟨Catalog.isMatch_push_return isBuiltin searched,
      fun visible => Catalog.isMatch_push_return_eq isBuiltin visible
        searched alsoSearched⟩

/-- No finding of a rule is lost. -/
theorem findingsOf_sublist_withReturns :
    (findingsOf file text rule).Sublist (findingsOf file (withReturns text) rule) := by
  rw [findingsOf_eq_filterMap, findingsOf_eq_filterMap]
  apply filterMap_sublist_of_forall₂
  apply (forall₂_zipIdx (forall₂_lines_withReturns isBuiltin searches) 1).imp
  rintro ⟨line, number⟩ ⟨other, _⟩ ⟨⟨sameExcerpt, staysFound, -⟩, rfl⟩ finding found
  obtain ⟨isMatch, same⟩ := Option.ite_none_right_eq_some.mp found
  obtain rfl := Option.some.inj same
  rw [lineFinding?, if_pos (staysFound isMatch), Finding.matched,
    Finding.matched, sameExcerpt]

/-- A rule whose construct cannot end in a blank character has the same findings. -/
theorem findingsOf_withReturns_eq (visible : rule.id ∉ blankEndRuleIds) :
    findingsOf file (withReturns text) rule = findingsOf file text rule := by
  rw [findingsOf_eq_filterMap, findingsOf_eq_filterMap, eq_comm]
  apply filterMap_eq_of_forall₂
  apply (forall₂_zipIdx (forall₂_lines_withReturns isBuiltin searches) 1).imp
  rintro ⟨line, number⟩ ⟨other, _⟩ ⟨⟨sameExcerpt, -, sameAnswer⟩, rfl⟩
  simp only [lineFinding?, sameAnswer visible, Finding.matched, sameExcerpt]

end FindingsOf

theorem filter_mayEndBlank_findingsOf (file : String) (text : List Char) (rule : Rule) :
    (findingsOf file text rule).filter (!mayEndBlank ·) =
      if rule.id ∈ blankEndRuleIds then [] else findingsOf file text rule := by
  have ofRule : ∀ finding ∈ findingsOf file text rule,
      mayEndBlank finding = decide (rule.id ∈ blankEndRuleIds) := by
    intro finding member
    obtain ⟨_, _, _, _, rfl⟩ := mem_findingsOf_iff.mp member
    rfl
  split
  · rename_i blankEnd
    rw [List.filter_eq_nil_iff]
    intro finding member
    simp [ofRule finding member, blankEnd]
  · rename_i visible
    rw [List.filter_eq_self]
    intro finding member
    simp [ofRule finding member, visible]

/-- Carriage returns in front of the line feeds of a text leave the findings of most
rules as they are. The rules whose construct may end in a blank character keep theirs,
with the same lines and excerpts, and what they find in addition is on lines that they
match with a return at the end and not without. -/
theorem content_ignores_line_endings
    (rules : RuleSet)
    (file : String)
    (text : List Char)
    (language : Language)
    (searches : ∀ rule ∈ rules.rulesFor language, SearchesThrough rule text) :
    let plain := content rules file text language
    let returned := content rules file (withReturns text) language
    returned.filter (!mayEndBlank ·) = plain.filter (!mayEndBlank ·) ∧
      plain.Sublist returned ∧
      ∀ finding ∈ returned, finding ∉ plain →
        ∃ rule ∈ rules.rulesFor language, rule.id ∈ blankEndRuleIds ∧
          ∃ index line, (Text.lines text)[index]? = some line ∧
            finding = .matched file (index + 1) rule.id rule.description
              rule.tier.severity line ∧
            rule.pattern.isMatch line.toArray = false ∧
            rule.pattern.isMatch (line ++ ['\r']).toArray = true := by
  intro plain returned
  have builtin : ∀ rule ∈ rules.rulesFor language, rule ∈ Catalog.builtin.rules :=
    fun rule applied => (RuleSet.mem_rulesFor_iff.mp applied).1
  have plain_eq : plain = _ := content_eq_flatMap rules file text language
  have returned_eq : returned = _ :=
    content_eq_flatMap rules file (withReturns text) language
  refine ⟨?_, ?_, fun finding found new => ?_⟩
  · rw [plain_eq, returned_eq, List.filter_flatMap, List.filter_flatMap]
    refine List.flatMap_congr fun rule applied => ?_
    rw [filter_mayEndBlank_findingsOf, filter_mayEndBlank_findingsOf]
    refine ite_congr rfl (fun _ => rfl) fun visible => ?_
    exact findingsOf_withReturns_eq (builtin rule applied) (searches rule applied) visible
  · rw [plain_eq, returned_eq]
    exact .flatMap_right _ fun rule applied =>
      findingsOf_sublist_withReturns (builtin rule applied) (searches rule applied)
  · rw [returned_eq] at found
    obtain ⟨rule, applied, found⟩ := List.mem_flatMap.mp found
    have added : finding ∉ findingsOf file text rule := fun kept =>
      new (plain_eq ▸ List.mem_flatMap.mpr ⟨rule, applied, kept⟩)
    refine ⟨rule, applied, ?_, ?_⟩
    · by_contra visible
      rw [findingsOf_withReturns_eq (builtin rule applied)
        (searches rule applied) visible] at found
      exact added found
    · obtain ⟨index, other, present, isMatch, rfl⟩ := mem_findingsOf_iff.mp found
      obtain ⟨line, plainPresent, mayHave⟩ := Text.exists_mayHaveReturn present
      have unmatched : rule.pattern.isMatch line.toArray = false := by
        refine Bool.eq_false_iff.mpr fun matched => added ?_
        refine mem_findingsOf_iff.mpr ⟨index, line, plainPresent, matched, ?_⟩
        rw [Finding.matched, Finding.matched, mayHave.excerpt_eq]
      refine ⟨index, line, plainPresent, ?_, unmatched, ?_⟩
      · rw [Finding.matched, Finding.matched, mayHave.excerpt_eq]
      · rcases mayHave with rfl | rfl
        · exact absurd isMatch (by simp [unmatched])
        · exact isMatch

/-- A shell script whose first line ends in a word that asks for a blank behind it. -/
def Sample.script : List Char := "sudo\nrm -rf /\n".toList

theorem content_ignores_line_endings_sample :
    let plain := content ⟨[]⟩ "run.sh" Sample.script .bash
    let returned := content ⟨[]⟩ "run.sh" (withReturns Sample.script) .bash
    (∀ rule ∈ RuleSet.rulesFor ⟨[]⟩ .bash, SearchesThrough rule Sample.script) ∧
      returned.filter (!mayEndBlank ·) = plain.filter (!mayEndBlank ·) ∧
      plain.Sublist returned := by
  have short : ∀ line ∈ Text.lines Sample.script,
      line.toArray.size ≤ Catalog.searchableLength ∧
        (line ++ ['\r']).toArray.size ≤ Catalog.searchableLength := by decide
  have searches : ∀ rule ∈ RuleSet.rulesFor ⟨[]⟩ .bash,
      SearchesThrough rule Sample.script := by
    intro rule applied line listed
    have isBuiltin := (RuleSet.mem_rulesFor_iff.mp applied).1
    exact ⟨Catalog.not_givesUpOn_of_short isBuiltin (short line listed).1,
      Catalog.not_givesUpOn_of_short isBuiltin (short line listed).2⟩
  obtain ⟨same, kept, -⟩ :=
    content_ignores_line_endings ⟨[]⟩ "run.sh" Sample.script .bash searches
  exact ⟨searches, same, kept⟩

end Scan
end ScriptAudit
