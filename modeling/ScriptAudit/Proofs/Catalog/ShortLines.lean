import ScriptAudit.Proofs.Catalog.Expressions
import ScriptAudit.Proofs.Pattern.Budget

/-!
# Short lines are searched to the end

On a line of a few dozen characters no built-in rule gives up, since even the rules that
look around cannot run out of retries or choices there. The bound comes from the plans
of these rules and is far below the length at which they really give up.
-/

namespace ScriptAudit
namespace Catalog

/-- Lines up to this length are searched to the end. -/
def searchableLength : Nat := 38

/-- Whether a pattern leads to an engine that can afford all searches of short lines. -/
def staysAffordable (pattern : List Char) : Bool :=
  Pattern.dialectOf pattern = .linear ||
    (Pattern.Engine.ofSource? (Pattern.dialectOf pattern)
        (Pattern.foldMark.toList ++ pattern)).all fun engine =>
      (List.range (searchableLength + 1)).all engine.affords

theorem staysAffordable_ofList
    {chars : List Char}
    (affordable : staysAffordable chars = true) :
    staysAffordable (String.ofList chars).toList = true := by
  rwa [String.toList_ofList]

theorem builtinTables_stayAffordable :
    ∀ table ∈ builtinTables, ∀ declaration ∈ table.rules,
      staysAffordable declaration.pattern.toList = true := by
  simp only [builtinTables, pythonHigh, pythonMedium, bashHigh,
    bashMedium, javascriptHigh, javascriptMedium, List.forall_mem_cons,
    List.not_mem_nil, false_implies, implies_true, and_true]
  and_intros <;> exact staysAffordable_ofList (by decide +kernel)

/-- An engine for the linear language never gives up. -/
theorem affords_of_linear
    {source : List Char}
    {engine : Pattern.Engine}
    (made : Pattern.Engine.ofSource? .linear source = some engine)
    (size : Nat) :
    engine.affords size = true := by
  obtain ⟨regex, _, rfl⟩ := Option.map_eq_some_iff.mp made
  rfl

/-- No built-in rule gives up on a short line. -/
theorem not_givesUpOn_of_short
    {rule : Rule}
    {line : Pattern.Line}
    (isBuiltin : rule ∈ builtin.rules)
    (short : line.size ≤ searchableLength) :
    ¬rule.GivesUpOn line := by
  obtain ⟨table, present, declaration, declared, implements⟩ :=
    exists_declaration_of_mem_builtin isBuiltin
  have affordable := builtinTables_stayAffordable table present declaration declared
  have accepted := implements.compiles
  simp only [Pattern.Compiled.ofPattern, String.toList_append] at accepted
  split at accepted
  · rename_i engine made
    rw [Rule.GivesUpOn, ← Except.ok.inj accepted]
    apply Pattern.Engine.not_givesUpOn_of_affords
    rcases Bool.or_eq_true _ _ |>.mp affordable with linear | checked
    · rw [of_decide_eq_true linear] at made
      exact affords_of_linear made _
    · rw [made, Option.all_some] at checked
      exact List.all_eq_true.mp checked _ (List.mem_range.mpr (by omega))
  · cases accepted

end Catalog
end ScriptAudit
