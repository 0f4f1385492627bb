import ScriptAudit.Proofs.Catalog.ShortLines
import ScriptAudit.Proofs.Scan.LineEndings

/-!
# Blank lines make no difference

Everything that a built-in rule looks for has a visible character in it, so no rule
matches a blank line to the end of which it can be searched. Blank lines that are
inserted into a text therefore add no finding. The findings on the lines behind them are
further down by as many lines and stay the same otherwise, and all findings keep their
order.
-/

namespace ScriptAudit

/-! ## Inserted lines -/

namespace Text

/-- The text that consists of some lines. -/
def ofLines (parts : List (List Char)) : List Char :=
  ['\n'].intercalate parts

/-- A text with lines inserted behind some number of its lines, or at its end if it has
fewer. -/
def insertLines (index : Nat) (inserted : List (List Char)) (text : List Char) :
    List Char :=
  ofLines ((lines text).take index ++ inserted ++ (lines text).drop index)

/-- A line that may be inserted and in which nothing can be seen. -/
structure IsBlankLine (line : List Char) : Prop where
  whole : '\n' ∉ line
  blank : ∀ char ∈ line, isBlank char = true

theorem lines_ofLines
    {parts : List (List Char)}
    (nonempty : parts ≠ [])
    (whole : ∀ part ∈ parts, '\n' ∉ part) :
    lines (ofLines parts) = parts := by
  induction parts with
  | nil => exact absurd rfl nonempty
  | cons first rest inductionHypothesis =>
      obtain ⟨firstWhole, restWhole⟩ := List.forall_mem_cons.mp whole
      have uncut : ∀ char ∈ first, (char == '\n') = false := by
        intro char present
        exact beq_eq_false_iff_ne.mpr fun isFeed => firstWhole (isFeed ▸ present)
      cases rest with
      | nil =>
          rw [ofLines, List.intercalate_singleton]
          exact splitAt_of_forall_not uncut
      | cons second rest =>
          rw [ofLines, List.intercalate_cons_cons, ← ofLines, List.append_assoc,
            List.singleton_append, lines, splitAt_piece_cons uncut rfl, ← lines,
            inductionHypothesis (List.cons_ne_nil second rest) restWhole]

/-- The lines of a text that lines were inserted into. -/
theorem lines_insertLines
    {inserted : List (List Char)}
    (whole : ∀ line ∈ inserted, '\n' ∉ line)
    (index : Nat)
    (text : List Char) :
    lines (insertLines index inserted text) =
      (lines text).take index ++ inserted ++ (lines text).drop index := by
  apply lines_ofLines
  · intro empty
    obtain ⟨⟨noneBefore, -⟩, noneBehind⟩ : (_ = [] ∧ _ = []) ∧ _ = [] := by
      simpa only [List.append_eq_nil_iff] using empty
    apply splitAt_ne_nil (· == '\n') text
    rw [← lines, ← List.take_append_drop index (lines text), noneBefore, noneBehind,
      List.append_nil]
  · rw [List.forall_mem_append, List.forall_mem_append]
    exact ⟨⟨fun line listed => not_mem_of_mem_lines (List.mem_of_mem_take listed), whole⟩,
      fun line listed => not_mem_of_mem_lines (List.mem_of_mem_drop listed)⟩

end Text

namespace Finding

/-- A finding after lines were inserted behind some number of lines. -/
def afterInsertion (index count : Nat) (finding : Finding) : Finding :=
  if finding.line.any (index < ·) then finding.shiftedBy count else finding

variable {finding : Finding} {index number : Nat}

theorem afterInsertion_of_le
    (isLine : finding.line = some number)
    (before : number ≤ index)
    (count : Nat) :
    finding.afterInsertion index count = finding := by
  simp [afterInsertion, isLine, before]

theorem afterInsertion_of_lt
    (isLine : finding.line = some number)
    (behind : index < number)
    (count : Nat) :
    finding.afterInsertion index count = finding.shiftedBy count := by
  simp [afterInsertion, isLine, behind]

end Finding

/-! ## Rules on blank lines -/

/-- A built-in rule matches no blank line that it does not give up on. -/
theorem Catalog.isMatch_eq_false_of_blank
    {rule : Rule}
    {line : Pattern.Line}
    (isBuiltin : rule ∈ builtin.rules)
    (blank : ∀ char ∈ line, Text.isBlank char = true)
    (searched : ¬rule.GivesUpOn line) :
    rule.pattern.isMatch line = false := by
  obtain ⟨regex, searches, checked⟩ := exists_expression_of_mem_builtin isBuiltin
  have tolerates := checked _ builtin_toleratesPadding
  simp only [toleratesPadding, Bool.and_eq_true] at tolerates
  rw [Bool.eq_false_iff, ne_eq, searches.isMatch_iff_of_searched searched]
  exact Pattern.Regex.not_occurs_of_blank tolerates.1.1
    (checked _ builtin_needsVisible) blank

namespace Scan

open Text (insertLines IsBlankLine)

variable {file : String} {text : List Char} {rule : Rule} {inserted : List (List Char)}

/-! ## Findings around inserted lines -/

/-- The findings of a rule on lines that are numbered from some number on. -/
def findingsFrom
    (file : String)
    (rule : Rule)
    (first : Nat)
    (lines : List (List Char)) : List Finding :=
  (lines.zipIdx first).filterMap (lineFinding? file rule)

theorem findingsFrom_append (first : Nat) (early late : List (List Char)) :
    findingsFrom file rule first (early ++ late) =
      findingsFrom file rule first early ++
        findingsFrom file rule (first + early.length) late := by
  rw [findingsFrom, List.zipIdx_append, List.filterMap_append]
  rfl

/-- The findings on lines further down are further down, and the same otherwise. -/
theorem findingsFrom_add (first count : Nat) (lines : List (List Char)) :
    findingsFrom file rule (first + count) lines =
      (findingsFrom file rule first lines).map (Finding.shiftedBy count) := by
  rw [findingsFrom, findingsFrom, Nat.add_comm, ← List.map_snd_add_zipIdx_eq_zipIdx,
    List.filterMap_map, List.map_filterMap]
  congr 1
  funext numbered
  obtain ⟨line, number⟩ := numbered
  cases isMatch : rule.pattern.isMatch line.toArray <;>
    simp [lineFinding?, isMatch, Finding.matched, Finding.shiftedBy]

theorem findingsFrom_eq_nil
    {lines : List (List Char)}
    (unmatched : ∀ line ∈ lines, rule.pattern.isMatch line.toArray = false)
    (first : Nat) :
    findingsFrom file rule first lines = [] := by
  rw [findingsFrom, List.filterMap_eq_nil_iff]
  rintro ⟨line, number⟩ listed
  rw [lineFinding?, if_neg]
  simpa using unmatched line (List.fst_mem_of_mem_zipIdx listed)

/-- A finding is on one of the lines. -/
theorem exists_line_of_mem_findingsFrom
    {lines : List (List Char)}
    {first : Nat}
    {finding : Finding}
    (member : finding ∈ findingsFrom file rule first lines) :
    ∃ number, finding.line = some number ∧ first ≤ number ∧
      number < first + lines.length := by
  obtain ⟨⟨line, number⟩, listed, found⟩ := List.mem_filterMap.mp member
  obtain ⟨atLeast, below, -⟩ := List.mem_zipIdx listed
  obtain ⟨-, same⟩ := Option.ite_none_right_eq_some.mp found
  obtain rfl := Option.some.inj same
  exact ⟨number, rfl, atLeast, below⟩

/-- Lines that a rule does not match add no finding of it and shift those behind them.
-/
theorem findingsFrom_insert
    {before behind : List (List Char)}
    {index : Nat}
    (unmatched : ∀ line ∈ inserted, rule.pattern.isMatch line.toArray = false)
    (notMore : before.length ≤ index)
    (reached : behind ≠ [] → before.length = index) :
    findingsFrom file rule 1 (before ++ inserted ++ behind) =
      (findingsFrom file rule 1 (before ++ behind)).map
        (Finding.afterInsertion index inserted.length) := by
  have kept : (findingsFrom file rule 1 before).map
      (Finding.afterInsertion index inserted.length) =
        findingsFrom file rule 1 before := by
    refine (List.map_congr_left fun finding member => ?_).trans (List.map_id _)
    obtain ⟨number, isLine, -, below⟩ := exists_line_of_mem_findingsFrom member
    exact Finding.afterInsertion_of_le isLine (by omega) _
  have shifted : (findingsFrom file rule (1 + before.length) behind).map
        (Finding.afterInsertion index inserted.length) =
      findingsFrom file rule (1 + before.length + inserted.length) behind := by
    rw [findingsFrom_add (1 + before.length)]
    refine List.map_congr_left fun finding member => ?_
    obtain ⟨number, isLine, atLeast, below⟩ := exists_line_of_mem_findingsFrom member
    have nonempty : behind ≠ [] := List.ne_nil_of_length_pos (by omega)
    have isIndex : before.length = index := reached nonempty
    exact Finding.afterInsertion_of_lt isLine (by omega) _
  rw [List.append_assoc, findingsFrom_append, findingsFrom_append, findingsFrom_append,
    findingsFrom_eq_nil unmatched, List.nil_append, List.map_append, kept, shifted]

theorem findingsOf_insertLines
    (whole : ∀ line ∈ inserted, '\n' ∉ line)
    (unmatched : ∀ line ∈ inserted, rule.pattern.isMatch line.toArray = false)
    (index : Nat) :
    findingsOf file (insertLines index inserted text) rule =
      (findingsOf file text rule).map (Finding.afterInsertion index inserted.length) := by
  have ofLines : ∀ text, findingsOf file text rule =
      findingsFrom file rule 1 (Text.lines text) :=
    fun text => findingsOf_eq_filterMap file text rule
  have reached : (Text.lines text).drop index ≠ [] →
      ((Text.lines text).take index).length = index := by
    intro more
    rw [ne_eq, List.drop_eq_nil_iff] at more
    rw [List.length_take]
    omega
  rw [ofLines, ofLines, Text.lines_insertLines whole,
    findingsFrom_insert unmatched (List.length_take_le _ _) reached,
    List.take_append_drop]

/-- Blank lines that no rule gives up on can be inserted anywhere in a text. They add no
finding, and the findings change only in the numbers of the lines behind the insertion,
which grow by the number of inserted lines. -/
theorem content_ignores_blank_lines
    (rules : RuleSet)
    (file : String)
    (text : List Char)
    (language : Language)
    (index : Nat)
    (inserted : List (List Char))
    (blank : ∀ line ∈ inserted, IsBlankLine line)
    (searched : ∀ rule ∈ rules.rulesFor language, ∀ line ∈ inserted,
      ¬rule.GivesUpOn line.toArray) :
    let longer := insertLines index inserted text
    Text.lines longer = (Text.lines text).take index ++ inserted ++
      (Text.lines text).drop index ∧
      content rules file longer language =
        (content rules file text language).map
          (Finding.afterInsertion index inserted.length) := by
  intro longer
  have whole : ∀ line ∈ inserted, '\n' ∉ line :=
    fun line listed => (blank line listed).whole
  refine ⟨Text.lines_insertLines whole index text, ?_⟩
  rw [content_eq_flatMap, content_eq_flatMap, List.map_flatMap]
  refine List.flatMap_congr fun rule applied => ?_
  refine findingsOf_insertLines whole (fun line listed => ?_) index
  refine Catalog.isMatch_eq_false_of_blank (RuleSet.mem_rulesFor_iff.mp applied).1 ?_
    (searched rule applied line listed)
  intro char present
  exact (blank line listed).blank char (List.mem_toArray.mp present)

/-- Lines of different blank characters, one of them without any. -/
def Sample.blankLines : List (List Char) :=
  [[' ', '\t', '\r'], [], ['\u00A0', '\u3000']]

theorem content_ignores_blank_lines_sample :
    (∀ line ∈ Sample.blankLines, IsBlankLine line) ∧
      (∀ rule ∈ RuleSet.rulesFor ⟨[]⟩ .bash, ∀ line ∈ Sample.blankLines,
        ¬rule.GivesUpOn line.toArray) ∧
      content ⟨[]⟩ "run.sh" (insertLines 1 Sample.blankLines Sample.script) .bash =
        (content ⟨[]⟩ "run.sh" Sample.script .bash).map (Finding.afterInsertion 1 3) := by
  have blank : ∀ line ∈ Sample.blankLines, IsBlankLine line := by
    have checked : ∀ line ∈ Sample.blankLines,
        '\n' ∉ line ∧ ∀ char ∈ line, Text.isBlank char = true := by decide
    exact fun line listed => ⟨(checked line listed).1, (checked line listed).2⟩
  have searched : ∀ rule ∈ RuleSet.rulesFor ⟨[]⟩ .bash, ∀ line ∈ Sample.blankLines,
      ¬rule.GivesUpOn line.toArray := by
    have short : ∀ line ∈ Sample.blankLines,
        line.toArray.size ≤ Catalog.searchableLength := by decide
    intro rule applied line listed
    exact Catalog.not_givesUpOn_of_short (RuleSet.mem_rulesFor_iff.mp applied).1
      (short line listed)
  exact ⟨blank, searched, (content_ignores_blank_lines ⟨[]⟩ "run.sh" Sample.script .bash 1
    Sample.blankLines blank searched).2⟩

end Scan
end ScriptAudit
