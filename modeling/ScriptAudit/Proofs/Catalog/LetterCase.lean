import ScriptAudit.Proofs.Catalog.ShortLines

/-!
# Letter case cannot evade a rule

The flag in front of every pattern closes its classes under case variants, so no class
of a built-in pattern tells the forms of a letter apart. Writing a construct in another
case makes no difference to any built-in rule.
-/

namespace ScriptAudit
namespace Catalog

open Pattern (Regex Line)

/-- A built-in rule gives the same answer for two lines that are written with the same
letters, as long as neither search is given up. -/
theorem case_evades_no_rule
    {rule : Rule}
    {first second : Line}
    (isBuiltin : rule ∈ builtin.rules)
    (same : first.SameLetters second)
    (searched : ¬rule.GivesUpOn first)
    (alsoSearched : ¬rule.GivesUpOn second) :
    rule.pattern.isMatch first = rule.pattern.isMatch second := by
  obtain ⟨regex, searches, checked⟩ := exists_expression_of_mem_builtin isBuiltin
  have ignores : regex.ignoresCase = true := checked _ builtin_ignoresCase
  rw [Bool.eq_iff_iff, searches.isMatch_iff_of_searched searched,
    searches.isMatch_iff_of_searched alsoSearched]
  exact Regex.occurs_congr ignores same

/-- A request to another host. -/
def Sample.request : Line := "requests.post('https://example.org')".toList.toArray

/-- The same request with capitals and with a long s for each s. -/
def Sample.disguisedRequest : Line :=
  "REQUE\u017fT\u017f.Post('HTTP\u017f://EXAMPLE.org')".toList.toArray

theorem case_evades_no_rule_request :
    ∃ rule ∈ builtin.rules, rule.id = "PY-015" ∧
      Sample.request.SameLetters Sample.disguisedRequest ∧
      ¬rule.GivesUpOn Sample.request ∧ ¬rule.GivesUpOn Sample.disguisedRequest ∧
      rule.pattern.isMatch Sample.request =
        rule.pattern.isMatch Sample.disguisedRequest := by
  have known : "PY-015" ∈ builtinIds := by decide
  obtain ⟨rule, isBuiltin, named⟩ := exists_builtin_of_id known
  have same : Sample.request.SameLetters Sample.disguisedRequest := by
    decide +kernel
  have searched : ¬rule.GivesUpOn Sample.request :=
    not_givesUpOn_of_short isBuiltin (by decide +kernel)
  have alsoSearched : ¬rule.GivesUpOn Sample.disguisedRequest :=
    not_givesUpOn_of_short isBuiltin (by decide +kernel)
  exact ⟨rule, isBuiltin, named, same, searched, alsoSearched,
    case_evades_no_rule isBuiltin same searched alsoSearched⟩

end Catalog
end ScriptAudit
