import Mathlib.Data.List.Pairwise
import ScriptAudit.Proofs.Catalog.Builtin
import ScriptAudit.RuleSet

/-!
# The order in which rules are applied

Rules of the high tier are applied before those of the medium one, whatever the order
of the tables. Leaving rules out keeps the order of the others.
-/

namespace ScriptAudit

/-- The first of two tiers is applied no later than the second. -/
def Tier.NotBehind (first second : Tier) : Prop :=
  second = .high → first = .high

namespace Catalog

/-- Declarations of the high tier stand before those of the medium one. -/
theorem declarations_pairwise (tables : List RuleTable) :
    ((declarations tables).map fun rule => rule.2.1).Pairwise Tier.NotBehind := by
  have ofTier : ∀ tier, ∀ found ∈ ((tables.filter fun table => table.tier = tier).flatMap
      fun table => table.rules.map fun rule => (table.language, tier, rule)).map
        fun rule => rule.2.1, found = tier := by
    intro tier found member
    simp only [List.map_flatMap, List.map_map, List.mem_flatMap, List.mem_map] at member
    obtain ⟨table, _, rule, _, rfl⟩ := member
    rfl
  rw [declarations, Tier.scanOrder, List.flatMap_cons,
    List.flatMap_cons, List.flatMap_nil, List.append_nil, List.map_append,
    List.pairwise_append]
  refine ⟨?_, ?_, ?_⟩
  · exact List.pairwise_of_forall_mem_list fun first firstMember second _ _ =>
      ofTier .high first firstMember
  · refine List.pairwise_of_forall_mem_list fun first _ second secondMember isHigh => ?_
    rw [ofTier .medium second secondMember] at isHigh
    cases isHigh
  · exact fun first firstMember second _ _ => ofTier .high first firstMember

theorem builtin_tiers_pairwise :
    builtin.rules.Pairwise fun first second => first.tier.NotBehind second.tier := by
  have tiers : builtin.rules.map Rule.tier =
      (declarations builtinTables).map fun rule => rule.2.1 :=
    map_eq_of_implements builtin_implements fun _ _ _ _ implements => implements.tier_eq
  refine List.pairwise_map.mp ?_
  rw [tiers]
  exact declarations_pairwise builtinTables

end Catalog

/-- The rules of the high tier are applied first. -/
theorem RuleSet.rulesFor_pairwise (rules : RuleSet) (language : Language) :
    (rules.rulesFor language).Pairwise fun first second =>
      first.tier.NotBehind second.tier :=
  (Catalog.builtin_tiers_pairwise.filter _).filter _

end ScriptAudit
