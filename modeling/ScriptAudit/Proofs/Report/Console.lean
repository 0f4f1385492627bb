import Mathlib.Data.List.Forall2
import ScriptAudit.Report.Console

/-!
# Reports for the console

A report for the console is a text of lines. Between the lines above the findings and
the verdict stands one block of lines for every finding. The blocks go by severity and
then by file, and blocks that agree in both keep the order of the report. There is only
one such order.
-/

namespace ScriptAudit
namespace Report
namespace Console

/-! ## The order of the blocks -/

/-- The codes of the characters of a text. -/
def codePoints (text : String) : List Nat :=
  text.toList.map Char.toNat

/-- A finding is listed no later than another one: it is more serious, or it is as
serious and its file does not come behind the other's in the order of code points. -/
def NoLater (first second : Finding) : Prop :=
  second.severity.rank < first.severity.rank ∨
    first.severity = second.severity ∧ ¬codePoints second.file < codePoints first.file

/-- Whether a finding is of a severity and in a file. -/
def isIn (severity : Severity) (file : String) (finding : Finding) : Bool :=
  finding.severity = severity ∧ finding.file = file

/-- A list shows all findings, each once, by severity and then by file. Findings that
agree in both keep their order. -/
structure IsGrouping (findings listed : List Finding) : Prop where
  perm : listed.Perm findings
  sorted : listed.Pairwise NoLater
  stable : ∀ severity file,
    listed.filter (isIn severity file) = findings.filter (isIn severity file)

theorem isIn_iff {severity : Severity} {file : String} {finding : Finding} :
    isIn severity file finding = true ↔
      finding.severity = severity ∧ finding.file = file :=
  decide_eq_true_iff

theorem rank_injective {first second : Severity} (same : first.rank = second.rank) :
    first = second := by
  cases first <;> cases second <;> first | rfl | cases same

/-- Texts are ordered as their code points are. -/
theorem not_codePoints_lt_iff {first second : String} :
    ¬codePoints second < codePoints first ↔ first ≤ second := by
  have lt_iff : ∀ {first second : List Char},
      first.map Char.toNat < second.map Char.toNat ↔ first < second := by
    intro first second
    induction first generalizing second with
    | nil => cases second <;> simp
    | cons char rest inductionHypothesis =>
        cases second with
        | nil => simp
        | cons other others =>
            have sameChar : char.toNat = other.toNat ↔ char = other := Char.toNat_inj
            rw [List.map_cons, List.map_cons, List.cons_lt_cons_iff,
              List.cons_lt_cons_iff, inductionHypothesis, sameChar]
            rfl
  exact not_congr lt_iff

theorem precedes_iff {first second : Finding} :
    precedes first second = true ↔ NoLater first second := by
  rw [NoLater, not_codePoints_lt_iff]
  simp only [precedes, Bool.or_eq_true, Bool.and_eq_true, decide_eq_true_eq, beq_iff_eq]
  have sameRank : first.severity.rank = second.severity.rank ↔
      first.severity = second.severity := ⟨rank_injective, congrArg Severity.rank⟩
  rw [sameRank]

theorem precedes_trans
    (first second third : Finding)
    (before : precedes first second = true)
    (behind : precedes second third = true) :
    precedes first third = true := by
  rw [precedes_iff, NoLater, not_codePoints_lt_iff] at *
  rcases before with higher | ⟨same, sooner⟩
  · rcases behind with higher' | ⟨same', _⟩
    · exact .inl (Nat.lt_trans higher' higher)
    · exact .inl (same' ▸ higher)
  · rcases behind with higher' | ⟨same', sooner'⟩
    · exact .inl (same ▸ higher')
    · exact .inr ⟨same.trans same', String.le_trans sooner sooner'⟩

theorem precedes_total (first second : Finding) :
    (precedes first second || precedes second first) = true := by
  rw [Bool.or_eq_true, precedes_iff, precedes_iff, NoLater, NoLater,
    not_codePoints_lt_iff, not_codePoints_lt_iff]
  rcases Nat.lt_trichotomy first.severity.rank second.severity.rank
    with lower | same | higher
  · exact .inr (.inl lower)
  · have same := rank_injective same
    exact (String.le_total first.file second.file).imp (fun sooner => .inr ⟨same, sooner⟩)
      fun sooner => .inr ⟨same.symm, sooner⟩
  · exact .inl (.inl higher)

/-- Sorting keeps the order of findings that agree in severity and file. -/
theorem filter_listed (findings : List Finding) (severity : Severity) (file : String) :
    (listed findings).filter (isIn severity file) =
      findings.filter (isIn severity file) := by
  have alike : (findings.filter (isIn severity file)).Pairwise (precedes · · = true) := by
    refine List.pairwise_of_forall_mem_list fun first isFirst second isSecond => ?_
    obtain ⟨rfl, rfl⟩ := isIn_iff.mp (List.mem_filter.mp isFirst).2
    obtain ⟨same, sameFile⟩ := isIn_iff.mp (List.mem_filter.mp isSecond).2
    exact precedes_iff.mpr (.inr ⟨same.symm, sameFile ▸ List.lt_irrefl _⟩)
  have kept : (findings.filter (isIn severity file)).Sublist (listed findings) :=
    List.sublist_mergeSort precedes_trans precedes_total alike List.filter_sublist
  have within := kept.filter (isIn severity file)
  rw [List.filter_filter] at within
  simp only [Bool.and_self] at within
  refine (within.eq_of_length ?_).symm
  exact ((List.mergeSort_perm findings precedes).filter _).length_eq.symm

theorem listed_isGrouping (findings : List Finding) :
    IsGrouping findings (listed findings) where
  perm := List.mergeSort_perm findings precedes
  sorted := (List.pairwise_mergeSort precedes_trans precedes_total findings).imp
    precedes_iff.mp
  stable := filter_listed findings

/-- Findings that come no later than each other agree in severity and file. -/
theorem NoLater.antisymm
    {first second : Finding}
    (before : NoLater first second)
    (behind : NoLater second first) :
    first.severity = second.severity ∧ first.file = second.file := by
  rw [NoLater, not_codePoints_lt_iff] at before behind
  rcases before with higher | ⟨same, sooner⟩
  · rcases behind with higher' | ⟨same', _⟩
    · exact absurd higher (Nat.lt_asymm higher')
    · exact absurd higher (same' ▸ Nat.lt_irrefl _)
  · rcases behind with higher' | ⟨_, sooner'⟩
    · exact absurd higher' (same ▸ Nat.lt_irrefl _)
    · exact ⟨same, String.le_antisymm sooner sooner'⟩

/-- A sorted list is known from what it lists of every severity and file. -/
theorem eq_of_sorted
    {first second : List Finding}
    (sorted : first.Pairwise NoLater)
    (alsoSorted : second.Pairwise NoLater)
    (same : ∀ severity file,
      first.filter (isIn severity file) = second.filter (isIn severity file)) :
    first = second := by
  have mem_of_mem : ∀ {first second : List Finding},
      (∀ severity file,
        first.filter (isIn severity file) = second.filter (isIn severity file)) →
        ∀ finding ∈ first, finding ∈ second := by
    intro first second same finding member
    have grouped : finding ∈ first.filter (isIn finding.severity finding.file) :=
      List.mem_filter.mpr ⟨member, isIn_iff.mpr ⟨rfl, rfl⟩⟩
    rw [same] at grouped
    exact List.mem_of_mem_filter grouped
  induction first generalizing second with
  | nil =>
      refine (List.eq_nil_iff_forall_not_mem.mpr fun finding member => ?_).symm
      exact List.not_mem_nil
        (mem_of_mem (fun severity file => (same severity file).symm) _ member)
  | cons head rest inductionHypothesis =>
      cases second with
      | nil => exact absurd (mem_of_mem same head List.mem_cons_self) List.not_mem_nil
      | cons other others =>
          -- each of the two heads is listed no later than the other
          have agrees : head.severity = other.severity ∧ head.file = other.file := by
            rcases List.mem_cons.mp (mem_of_mem same head List.mem_cons_self)
              with rfl | later
            · exact ⟨rfl, rfl⟩
            · have isSame := fun severity file => (same severity file).symm
              rcases List.mem_cons.mp (mem_of_mem isSame other List.mem_cons_self)
                with rfl | behind
              · exact ⟨rfl, rfl⟩
              · exact ((List.pairwise_cons.mp sorted).1 other behind).antisymm
                  ((List.pairwise_cons.mp alsoSorted).1 head later)
          have equal : head = other := by
            have heads := same head.severity head.file
            rw [List.filter_cons_of_pos (isIn_iff.mpr ⟨rfl, rfl⟩),
              List.filter_cons_of_pos (isIn_iff.mpr ⟨agrees.1.symm, agrees.2.symm⟩)]
                at heads
            exact (List.cons.inj heads).1
          subst equal
          congr 1
          refine inductionHypothesis sorted.of_cons alsoSorted.of_cons
            fun severity file => ?_
          have grouped := same severity file
          rw [List.filter_cons, List.filter_cons] at grouped
          split at grouped
          · exact (List.cons.inj grouped).2
          · exact grouped

/-- There is one grouping of the findings of a report. -/
theorem IsGrouping.unique
    {findings first second : List Finding}
    (isGrouping : IsGrouping findings first)
    (alsoGrouping : IsGrouping findings second) :
    first = second :=
  eq_of_sorted isGrouping.sorted alsoGrouping.sorted fun severity file =>
    (isGrouping.stable severity file).trans (alsoGrouping.stable severity file).symm

/-! ## The lines of a report -/

/-- Lines as a text, in which a line feed ends every line. -/
def textOf (lines : List String) : String :=
  String.join (lines.map (· ++ "\n"))

/-- The block of lines on a finding: why a file could not be read if the finding says
so, and what was found, where, and in which words otherwise. -/
inductive IsBlock (finding : Finding) : List String → Prop
  | failure
      (error : String)
      (failed : finding.error = some error) :
      IsBlock finding
        ["  " ++ mark finding.severity ++ " unreadable file: " ++ error,
          "           at " ++ finding.file,
          ""]
  | hit (read : finding.error = none) :
      IsBlock finding
        (["  " ++ mark finding.severity ++ " " ++ finding.description.getD "-",
            "           at " ++ finding.file ++ ":" ++ toString (finding.line.getD 0)] ++
          finding.excerpt.toList.map ("           | " ++ ·) ++ [""])

/-- The lines above the findings. -/
def headLines (report : Report) : List String :=
  ["", "  " ++ report.skillPath ++ " (" ++ toString report.filesScanned ++
    " file(s) scanned)"] ++ report.note.toList.map ("  note: " ++ ·)

/-- The lines that say how many findings follow. -/
def countLines (report : Report) : List String :=
  ["", "  " ++ toString report.findings.length ++ " finding(s) detected:", ""]

/-- The lines of the verdict. -/
def verdictLines (report : Report) : List String :=
  ["  Result: " ++ (if report.passed then "PASS" else "FAIL") ++
      " (high: " ++ toString report.summary.high ++
      ", medium: " ++ toString report.summary.medium ++
      ", low: " ++ toString report.summary.low ++ ")",
    ""]

theorem textOf_append (first second : List String) :
    textOf (first ++ second) = textOf first ++ textOf second := by
  rw [textOf, List.map_append, String.join_append, textOf, textOf]

theorem header_eq (report : Report) : header report = textOf (headLines report) := by
  cases noted : report.note <;>
    simp [header, headLines, textOf, noted, ← String.toList_inj]

theorem verdict_eq (report : Report) : verdict report = textOf (verdictLines report) := by
  have closed : ∀ front : String, front ++ ")\n\n" = textOf [front ++ ")", ""] := by
    simp [textOf, ← String.toList_inj]
  exact closed _

/-- A finding alone determines its block. -/
theorem IsBlock.unique
    {finding : Finding}
    {block other : List String}
    (isBlock : IsBlock finding block)
    (alsoBlock : IsBlock finding other) :
    block = other := by
  cases isBlock with
  | failure error failed =>
      cases alsoBlock with
      | failure otherError alsoFailed =>
          rw [Option.some.inj (failed.symm.trans alsoFailed)]
      | hit read => cases failed.symm.trans read
  | hit read =>
      cases alsoBlock with
      | failure error failed => cases failed.symm.trans read
      | hit _ => rfl

theorem exists_isBlock (finding : Finding) :
    ∃ block, IsBlock finding block ∧ entry finding = textOf block := by
  cases failed : finding.error with
  | some error =>
      refine ⟨_, .failure error failed, ?_⟩
      simp [entry, failed, textOf, ← String.toList_inj]
  | none =>
      refine ⟨_, .hit failed, ?_⟩
      cases quoted : finding.excerpt <;>
        simp [entry, failed, quoted, textOf, ← String.toList_inj]

/-- The entries of findings are the lines of their blocks. -/
theorem exists_blocks (findings : List Finding) :
    ∃ blocks, List.Forall₂ IsBlock findings blocks ∧
      String.join (findings.map entry) = textOf blocks.flatten := by
  induction findings with
  | nil => exact ⟨[], .nil, rfl⟩
  | cons finding findings inductionHypothesis =>
      obtain ⟨block, isBlock, entered⟩ := exists_isBlock finding
      obtain ⟨blocks, areBlocks, joined⟩ := inductionHypothesis
      refine ⟨block :: blocks, .cons isBlock areBlocks, ?_⟩
      rw [List.map_cons, String.join_cons, entered, joined,
        List.flatten_cons, textOf_append]

theorem body_eq
    {report : Report}
    (found : report.findings ≠ []) :
    body report =
      textOf (countLines report) ++ String.join ((listed report.findings).map entry) := by
  obtain ⟨first, rest, findings⟩ := List.exists_cons_of_ne_nil found
  simp [body, countLines, textOf, findings, ← String.toList_inj]

/-- A report with findings is shown as the lines above them, their number, one block for
every finding and the verdict. The blocks stand in the one order by severity and file
that leaves findings of the same severity and file as the report has them, and each of
them is known from its finding. -/
theorem render_groups_findings
    (report : Report)
    (found : report.findings ≠ []) :
    ∃ listed blocks,
      IsGrouping report.findings listed ∧
        (∀ other, IsGrouping report.findings other → other = listed) ∧
        List.Forall₂ IsBlock listed blocks ∧
        (∀ finding ∈ listed, ∃! block, IsBlock finding block) ∧
        render report =
          textOf (headLines report ++ countLines report ++ blocks.flatten ++
            verdictLines report) := by
  have isGrouping := listed_isGrouping report.findings
  obtain ⟨blocks, areBlocks, joined⟩ := exists_blocks (listed report.findings)
  refine ⟨listed report.findings, blocks, isGrouping, ?_, areBlocks, ?_, ?_⟩
  · exact fun other alsoGrouping => alsoGrouping.unique isGrouping
  · intro finding _
    obtain ⟨block, isBlock, -⟩ := exists_isBlock finding
    exact ⟨block, isBlock, fun other alsoBlock => alsoBlock.unique isBlock⟩
  · rw [render, header_eq, body_eq found, verdict_eq, joined]
    simp only [textOf_append, String.append_assoc]

/-- A report with a file that could not be read and with rules of two severities that
match in the same file. -/
def Sample.mixed : Report :=
  { aggregate (Path.ofString "skill") 2
      [.unreadable "scripts/b.py" "Permission denied (os error 13)",
        .matched "scripts/a.sh" 3 "SH-102" "sudo usage" .medium "sudo rm x".toList,
        .matched "scripts/a.sh" 1 "SH-102" "sudo usage" .medium "sudo ls".toList,
        .matched "scripts/a.sh" 2 "SH-005" "bash eval command" .high
          "eval $x".toList] with
    note := some "two scripts" }

theorem render_groups_findings_mixed :
    Sample.mixed.findings ≠ [] ∧
      ∃ listed blocks,
        IsGrouping Sample.mixed.findings listed ∧ List.Forall₂ IsBlock listed blocks ∧
          render Sample.mixed =
            textOf (headLines Sample.mixed ++ countLines Sample.mixed ++ blocks.flatten ++
              verdictLines Sample.mixed) := by
  have found : Sample.mixed.findings ≠ [] := List.cons_ne_nil _ _
  obtain ⟨listed, blocks, isGrouping, -, areBlocks, -, shown⟩ :=
    render_groups_findings Sample.mixed found
  exact ⟨found, listed, blocks, isGrouping, areBlocks, shown⟩

example : (listed Sample.mixed.findings).map (·.line) =
    [some 2, some 3, some 1, none] := by cbv

end Console
end Report
end ScriptAudit
