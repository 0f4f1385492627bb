import ScriptAudit.Catalog.Builtin
import ScriptAudit.Proofs.Catalog.Compilation

/-!
# The built-in catalogue is complete

Every built-in pattern can be read and no two built-in rules share an id, so the
built-in catalogue holds a rule for every declaration of its tables and has exactly
their ids.
-/

namespace ScriptAudit
namespace Catalog

/-- The ids that the built-in tables declare, in scan order. -/
def builtinIds : List String :=
  (declarations builtinTables).map fun declared => declared.2.2.id

theorem builtinTables_ids_nodup :
    ((builtinTables.flatMap RuleTable.rules).map Declaration.id).Nodup := by
  decide +kernel

/-- Every built-in pattern can be read. -/
theorem builtinTables_readable :
    ∀ table ∈ builtinTables, ∀ declaration ∈ table.rules,
      ∃ pattern, Pattern.Compiled.ofPattern declaration.pattern = .ok pattern := by
  simp only [builtinTables, pythonHigh, pythonMedium, bashHigh,
    bashMedium, javascriptHigh, javascriptMedium, List.forall_mem_cons,
    List.not_mem_nil, false_implies, implies_true, and_true]
  and_intros <;> exact exists_ofPattern_ofList (by decide +kernel)

/-- The built-in catalogue is the one that the tables make. -/
theorem compile_builtinTables : compile builtinTables = .ok builtin := by
  obtain ⟨catalog, compiled⟩ :=
    exists_compile_iff.mpr ⟨builtinTables_ids_nodup, builtinTables_readable⟩
  rw [builtin, compiled]
  rfl

/-- The built-in rules do what the tables declare, in the order in which they are read.
-/
theorem builtin_implements :
    List.Forall₂ (fun rule => Rule.Implements rule.1 rule.2.1 rule.2.2)
      (declarations builtinTables) builtin.rules :=
  (compile_eq_ok_iff.mp compile_builtinTables).2

/-- The built-in rules have the ids that the tables declare. -/
theorem builtin_ids : builtin.rules.map Rule.id = builtinIds :=
  map_id_of_compile compile_builtinTables

/-- No two built-in rules share an id. -/
theorem builtin_ids_nodup : (builtin.rules.map Rule.id).Nodup :=
  nodup_ids_of_compile compile_builtinTables

/-- A built-in rule is known from its id. -/
theorem eq_of_builtin_id_eq
    {first second : Rule}
    (isBuiltin : first ∈ builtin.rules)
    (alsoBuiltin : second ∈ builtin.rules)
    (same : first.id = second.id) :
    first = second :=
  List.inj_on_of_nodup_map builtin_ids_nodup isBuiltin alsoBuiltin same

/-- The built-in catalogue contains exactly the declared ids. -/
theorem builtin_contains_iff {id : String} :
    builtin.contains id = true ↔ id ∈ builtinIds := by
  rw [contains_iff, builtin_ids]

end Catalog
end ScriptAudit
