import ScriptAudit.Proofs.Catalog.ShortLines
import ScriptAudit.Proofs.Pattern.Wording

/-!
# Calls of yaml.load

The pattern for calls of `yaml.load` ends in a lookahead that was meant to spare the
safe loader. It stands behind a greedy run of everything but a closing parenthesis, and
the name that it looks for starts inside such a run, so it never turns down a call.
-/

namespace ScriptAudit
namespace Catalog

open Pattern (Regex Line CharClass CharSet)
open Pattern.Regex (word blanks)
open Text (SameLetter)

/-- A line holds `yaml.load` in any case, blanks, and an opening parenthesis. -/
def CallsYamlLoad (line : Line) : Prop :=
  ∃ before name gap after, line.toList = before ++ (name ++ gap ++ ['('] ++ after) ∧
    List.Forall₂ SameLetter "yaml.load".toList name ∧
    ∀ char ∈ gap, Text.isBlank char = true

/-! ## The expression -/

/-- The part of the pattern up to the opening parenthesis. -/
def yamlLoadCall : List Regex :=
  word "yaml.load".toList ++ blanks :: word "(".toList

/-- The characters of arguments. -/
def notClosing : CharSet :=
  .ofClass (Pattern.Parser.finishClass true true (.union .none (.single ')')))

/-- What the lookahead looks for. -/
def safeLoader : Regex :=
  .seq (word "Loader".toList ++ blanks :: word "=".toList ++
    blanks :: word "yaml.SafeLoader".toList)

/-- The expression that the pattern denotes. -/
def yamlLoad : Regex :=
  .seq (yamlLoadCall ++ [.iterate (.set notClosing) 0 none true,
    .look .ahead true safeLoader])

theorem builtin_yamlLoad :
    PassesOnBuiltin fun id regex => id != "PY-104" || regex.alike yamlLoad := by
  have declared :
      (⟨"PY-104", "yaml\\.load\\s*\\([^)]*(?!Loader\\s*=\\s*yaml\\.SafeLoader)",
      "unsafe yaml.load"⟩ : Declaration) ∈ pythonMedium.rules := by
    simp [pythonMedium]
  exact passesOnBuiltin_of_declared (by simp [builtinTables]) declared
    (all_expression?_ofList (by decide +kernel))

/-! ## The idle lookahead -/

/-- Everything that the lookahead looks for starts with a letter of its own, which the
run in front of it would have taken. -/
theorem exists_notClosing_of_spells_safeLoader
    {front : List Char}
    (spelled : safeLoader.Spells front) :
    ∃ first rest, front = first :: rest ∧ notClosing.contains first = true := by
  have parts : safeLoader = .seq (word "Loader".toList ++
      (blanks :: word "=".toList ++ blanks :: word "yaml.SafeLoader".toList)) := by
    rw [safeLoader, List.append_assoc]
  rw [parts, Regex.spells_seq_append] at spelled
  obtain ⟨name, rest, rfl, isName, -⟩ := spelled
  rw [Regex.spells_word_iff (by decide)] at isName
  obtain ⟨first, others, same, -, rfl⟩ := List.forall₂_cons_left_iff.mp isName
  refine ⟨first, others ++ rest, rfl, ?_⟩
  have ignores : notClosing.toClass.ignoresCase = true := by rfl
  rw [CharSet.contains_eq, ← CharClass.contains_congr ignores same]
  decide

theorem yamlLoad_occurs_iff {line : Line} :
    yamlLoad.Occurs line ↔ (Regex.seq yamlLoadCall).Occurs line :=
  Regex.occurs_seq_run_look_iff (by decide) (by decide)
    fun _ => exists_notClosing_of_spells_safeLoader

theorem spells_yamlLoadCall_iff {text : List Char} :
    (Regex.seq yamlLoadCall).Spells text ↔
      ∃ name gap, text = name ++ gap ++ ['('] ∧
        List.Forall₂ SameLetter "yaml.load".toList name ∧
        ∀ char ∈ gap, Text.isBlank char = true := by
  have isName : ∀ text, (Regex.seq (word "yaml.load".toList)).Spells text ↔
      List.Forall₂ SameLetter "yaml.load".toList text :=
    fun _ => Regex.spells_word_iff (by decide)
  have opens : ∀ text, (Regex.seq (word "(".toList)).Spells text ↔ text = ['('] :=
    fun _ => Regex.spells_marks_iff (by decide) (by decide)
  simp only [yamlLoadCall, Regex.spells_seq_append, Regex.spells_seq_cons,
    Regex.spells_blanks_iff, isName, opens]
  constructor
  · rintro ⟨name, _, rfl, same, gap, _, rfl, blank, rfl⟩
    exact ⟨name, gap, by simp, same, blank⟩
  · rintro ⟨name, gap, rfl, same, blank⟩
    exact ⟨name, gap ++ ['('], by simp, same, gap, ['('], rfl, blank, rfl⟩

theorem occurs_yamlLoadCall_iff {line : Line} :
    (Regex.seq yamlLoadCall).Occurs line ↔ CallsYamlLoad line := by
  rw [Regex.occurs_iff_spells (by decide)]
  simp only [spells_yamlLoadCall_iff, CallsYamlLoad]
  constructor
  · rintro ⟨before, _, after, cut, name, gap, rfl, same, blank⟩
    exact ⟨before, name, gap, after, cut, same, blank⟩
  · rintro ⟨before, name, gap, after, cut, same, blank⟩
    exact ⟨before, _, after, cut, name, gap, rfl, same, blank⟩

/-- The expression of the rule occurs in the lines with a call. -/
theorem occurs_iff_of_alike_yamlLoad
    {regex : Regex}
    {line : Line}
    (same : regex.alike yamlLoad = true) :
    regex.Occurs line ↔ CallsYamlLoad line := by
  rw [Regex.occurs_iff_of_alike same, yamlLoad_occurs_iff, occurs_yamlLoadCall_iff]

theorem exists_yamlLoad_expression
    {rule : Rule}
    (isBuiltin : rule ∈ builtin.rules)
    (named : rule.id = "PY-104") :
    ∃ regex, rule.SearchesFor regex ∧ ∀ {line : Line}, regex.Occurs line ↔
      CallsYamlLoad line := by
  obtain ⟨regex, searches, checked⟩ := exists_expression_of_mem_builtin isBuiltin
  have same : regex.alike yamlLoad = true := by
    simpa [named] using checked _ builtin_yamlLoad
  exact ⟨regex, searches, occurs_iff_of_alike_yamlLoad same⟩

/-- The rule for `yaml.load` matches the lines with a call, whatever its arguments, and
the lines on which its search is given up. -/
theorem yamlLoad_flags_every_call
    {rule : Rule}
    (isBuiltin : rule ∈ builtin.rules)
    (named : rule.id = "PY-104")
    (line : Line) :
    (¬rule.GivesUpOn line → (rule.pattern.isMatch line = true ↔ CallsYamlLoad line)) ∧
      (rule.GivesUpOn line → rule.pattern.isMatch line = true) := by
  obtain ⟨regex, searches, occurs_iff⟩ := exists_yamlLoad_expression isBuiltin named
  refine ⟨fun searched => ?_, fun gaveUp => searches.isMatch_iff.mpr (.inr gaveUp)⟩
  rw [searches.isMatch_iff_of_searched searched, occurs_iff]

/-- A call with the safe loader. -/
def Sample.safeLoad : Line := "yaml.load(f, Loader=yaml.SafeLoader)".toList.toArray

theorem yamlLoad_flags_every_call_safeLoad :
    ∃ rule ∈ builtin.rules, rule.id = "PY-104" ∧ ¬rule.GivesUpOn Sample.safeLoad ∧
      CallsYamlLoad Sample.safeLoad ∧ rule.pattern.isMatch Sample.safeLoad = true := by
  have known : "PY-104" ∈ builtinIds := by decide
  obtain ⟨rule, isBuiltin, named⟩ := exists_builtin_of_id known
  have searched : ¬rule.GivesUpOn Sample.safeLoad :=
    not_givesUpOn_of_short isBuiltin (by decide +kernel)
  have calls : CallsYamlLoad Sample.safeLoad :=
    ⟨[], "yaml.load".toList, [], "f, Loader=yaml.SafeLoader)".toList, by decide +kernel,
      by decide +kernel, by simp⟩
  exact ⟨rule, isBuiltin, named, searched, calls,
    ((yamlLoad_flags_every_call isBuiltin named _).1 searched).mpr calls⟩

end Catalog
end ScriptAudit
