import ScriptAudit.Proofs.Catalog.Builtin
import ScriptAudit.Proofs.Pattern.LetterCase
import ScriptAudit.Proofs.Pattern.Padding
import ScriptAudit.Proofs.Pattern.Visible

/-!
# Checks of the built-in patterns

What can be computed about an expression is computed for the patterns of the tables,
each of which is read once for all checks together, and then holds of all built-in
rules.
-/

namespace ScriptAudit

open Pattern (Regex)

/-- The expression that a pattern denotes, letter case being ignored. -/
def Pattern.expression? (pattern : List Char) : Option Regex :=
  parse? (dialectOf pattern) (foldMark.toList ++ pattern)

namespace Catalog

/-- A check of ids and expressions passes for every declaration of the built-in tables.
-/
def PassesOnBuiltin (check : String → Regex → Bool) : Prop :=
  ∀ table ∈ builtinTables, ∀ declaration ∈ table.rules,
    (Pattern.expression? declaration.pattern.toList).all (check declaration.id) = true

/-- A check of an expression, from the characters of its pattern. -/
theorem all_expression?_ofList
    {chars : List Char}
    {check : Regex → Bool}
    (passes : (Pattern.expression? chars).all check = true) :
    (Pattern.expression? (String.ofList chars).toList).all check = true := by
  rwa [String.toList_ofList]

/-- What a passed check implies is passed as well. -/
theorem PassesOnBuiltin.imp
    {check other : String → Regex → Bool}
    (passes : PassesOnBuiltin check)
    (implies : ∀ id regex, check id regex = true → other id regex = true) :
    PassesOnBuiltin other := by
  intro table present declaration declared
  have passed := passes table present declaration declared
  cases read : Pattern.expression? declaration.pattern.toList with
  | none => rfl
  | some regex =>
      rw [read, Option.all_some] at passed
      exact implies declaration.id regex passed

/-- A check of one declaration is a check of the expressions with its id. -/
theorem passesOnBuiltin_of_declared
    {table : RuleTable}
    {declaration : Declaration}
    {check : Regex → Bool}
    (present : table ∈ builtinTables)
    (declared : declaration ∈ table.rules)
    (passes : (Pattern.expression? declaration.pattern.toList).all check = true) :
    PassesOnBuiltin fun id regex => id != declaration.id || check regex := by
  intro otherTable alsoPresent other alsoDeclared
  by_cases named : other.id = declaration.id
  · obtain rfl : other = declaration :=
      List.inj_on_of_nodup_map builtinTables_ids_nodup
        (List.mem_flatMap.mpr ⟨otherTable, alsoPresent, alsoDeclared⟩)
        (List.mem_flatMap.mpr ⟨table, present, declared⟩) named
    simpa using passes
  · simp only [bne_iff_ne.mpr named, Bool.true_or]
    cases Pattern.expression? other.pattern.toList <;> rfl

/-! ## The checks -/

/-- The ids of the rules whose construct has to start a word. -/
def wordRuleIds : List String :=
  ["PY-001", "PY-002", "SH-005", "SH-102", "JS-001"]

/-- The ids of the rules that look at how a line goes on. -/
def lookingRuleIds : List String :=
  ["PY-015", "PY-104"]

/-- Whether text around a line leaves the matches of a rule's expression alone, as far
as its id says. -/
def toleratesPadding (id : String) (regex : Regex) : Bool :=
  regex.boundsValid && regex.readsForward (id ∈ wordRuleIds) &&
    (id ∈ lookingRuleIds || regex.readsInside false)

/-- The ids of the rules whose construct may end in a blank character. -/
def blankEndRuleIds : List String :=
  ["PY-014", "SH-005", "SH-102"]

/-- Whether no match of a rule's expression ends in a carriage return, as far as its id
says. -/
def endsBeforeReturn (id : String) (regex : Regex) : Bool :=
  id ∈ blankEndRuleIds || id ∈ lookingRuleIds || regex.endsWithout '\r'

/-- All that is checked of an expression. -/
def passesChecks (id : String) (regex : Regex) : Bool :=
  regex.isDirect && regex.ignoresCase && toleratesPadding id regex &&
    endsBeforeReturn id regex && regex.needsVisible

theorem builtin_passesChecks : PassesOnBuiltin passesChecks := by
  simp only [PassesOnBuiltin, builtinTables, pythonHigh, pythonMedium,
    bashHigh, bashMedium, javascriptHigh, javascriptMedium, List.forall_mem_cons,
    List.not_mem_nil, false_implies, implies_true, and_true]
  and_intros <;> exact all_expression?_ofList (by decide +kernel)

theorem builtin_direct : PassesOnBuiltin fun _ => Regex.isDirect :=
  builtin_passesChecks.imp fun id regex passes => by
    simp only [passesChecks, Bool.and_eq_true] at passes
    exact passes.1.1.1.1

theorem builtin_ignoresCase : PassesOnBuiltin fun _ => Regex.ignoresCase :=
  builtin_passesChecks.imp fun id regex passes => by
    simp only [passesChecks, Bool.and_eq_true] at passes
    exact passes.1.1.1.2

theorem builtin_toleratesPadding : PassesOnBuiltin toleratesPadding :=
  builtin_passesChecks.imp fun id regex passes => by
    simp only [passesChecks, Bool.and_eq_true] at passes
    exact passes.1.1.2

theorem builtin_endsBeforeReturn : PassesOnBuiltin endsBeforeReturn :=
  builtin_passesChecks.imp fun id regex passes => by
    simp only [passesChecks, Bool.and_eq_true] at passes
    exact passes.1.2

theorem builtin_needsVisible : PassesOnBuiltin fun _ => Regex.needsVisible :=
  builtin_passesChecks.imp fun id regex passes => by
    simp only [passesChecks, Bool.and_eq_true] at passes
    exact passes.2

end Catalog
end ScriptAudit
