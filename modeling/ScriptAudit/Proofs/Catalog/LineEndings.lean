import ScriptAudit.Proofs.Catalog.LocalExemption
import ScriptAudit.Proofs.Catalog.Padding

/-!
# Rules at the end of a line

A carriage return at the end of a line is one more blank character. Three rules look for
a construct that may end in a blank, so they may find it there only with the return.
Every match of the others ends in some other character, and the two that look ahead read
on for names without a return: to them a line is the same with and without it.
-/

namespace ScriptAudit
namespace Catalog

open Pattern (Regex Line)
open Text (smallForm)

/-! ## The rules that look ahead -/

theorem callsYamlLoad_push_iff {line : Line} :
    CallsYamlLoad (line.push '\r') ↔ CallsYamlLoad line := by
  rw [← occurs_yamlLoadCall_iff, ← occurs_yamlLoadCall_iff]
  exact Regex.occurs_push_iff (by decide) (by decide) (by decide)

/-- A call ends in the slash in front of the name of a host. -/
theorem IsRequest.exists_concat
    {request : List Char}
    (isRequest : IsRequest request) :
    ∃ front last, request = front ++ [last] ∧ smallForm last = '/' := by
  obtain @⟨library, method, gap, inner, address, quote, -, -, -, -, -, addressed⟩ :=
    isRequest
  have closed : ∀ mark ∈ addressMarks, ∃ front, mark = front ++ ['/'] := by
    have ends : ∀ mark ∈ addressMarks, mark.getLast? = some '/' := by decide
    exact fun mark isMark => List.getLast?_eq_some_iff.mp (ends mark isMark)
  obtain ⟨forms, isForms⟩ := closed _ addressed
  obtain ⟨front, behind, rfl, -, isLast⟩ := List.map_eq_append_iff.mp isForms
  obtain ⟨last, rfl, isSlash⟩ := List.map_eq_singleton_iff.mp isLast
  exact ⟨library ++ (method ++ (gap ++ '(' :: (inner ++ quote :: front))),
    last, by simp, isSlash⟩

theorem hasOutboundRequest_concat_iff {text : List Char} :
    HasOutboundRequest (text ++ ['\r']) ↔ HasOutboundRequest text := by
  have beginsLocal_iff : ∀ host, BeginsLocal (host ++ ['\r']) ↔ BeginsLocal host :=
      fun host =>
    beginsLocal_append_iff (by decide)
  constructor
  · rintro ⟨before, request, host, cut, isRequest, elsewhere⟩
    rcases List.eq_nil_or_concat host with rfl | ⟨host, last, rfl⟩
    · obtain ⟨front, last, rfl, isSlash⟩ := isRequest.exists_concat
      rw [List.append_nil, ← List.append_assoc] at cut
      obtain ⟨-, same⟩ := List.append_inj' cut rfl
      obtain rfl : '\r' = last := List.singleton_inj.mp same
      exact absurd isSlash (by decide)
    · rw [List.concat_eq_append, ← List.append_assoc, ← List.append_assoc] at cut
      obtain ⟨rfl, same⟩ := List.append_inj' cut rfl
      obtain rfl : '\r' = last := List.singleton_inj.mp same
      rw [List.concat_eq_append, beginsLocal_iff] at elsewhere
      exact ⟨before, request, host, by simp, isRequest, elsewhere⟩
  · rintro ⟨before, request, host, rfl, isRequest, elsewhere⟩
    exact ⟨before, request, host ++ ['\r'], by simp, isRequest,
      fun begins => elsewhere ((beginsLocal_iff host).mp begins)⟩

/-! ## All rules -/

/-- The expression of a built-in rule, at the end of a line. -/
theorem exists_expression_at_lineEnd
    {rule : Rule}
    (isBuiltin : rule ∈ builtin.rules) :
    ∃ regex, rule.SearchesFor regex ∧
      (∀ {line : Line}, regex.Occurs line → regex.Occurs (line.push '\r')) ∧
      (rule.id ∉ blankEndRuleIds → ∀ {line : Line},
        regex.Occurs (line.push '\r') ↔ regex.Occurs line) := by
  obtain ⟨regex, searches, checked⟩ := exists_expression_of_mem_builtin isBuiltin
  have tolerates := checked _ builtin_toleratesPadding
  have ends := checked _ builtin_endsBeforeReturn
  simp only [toleratesPadding, Bool.and_eq_true, Bool.or_eq_true, decide_eq_true_eq]
    at tolerates
  simp only [endsBeforeReturn, Bool.or_eq_true, decide_eq_true_eq] at ends
  obtain ⟨⟨valid, -⟩, inside⟩ := tolerates
  by_cases looking : rule.id ∈ lookingRuleIds
  · have same : ∀ {line : Line}, regex.Occurs (line.push '\r') ↔ regex.Occurs line := by
      intro line
      rcases List.mem_pair.mp looking with named | named
      · have alike : regex.alike outboundRequest = true := by
          simpa [named] using checked _ builtin_outboundRequest
        rw [occurs_iff_of_alike_outboundRequest alike,
          occurs_iff_of_alike_outboundRequest alike, Array.toList_push,
          hasOutboundRequest_concat_iff]
      · have alike : regex.alike yamlLoad = true := by
          simpa [named] using checked _ builtin_yamlLoad
        rw [occurs_iff_of_alike_yamlLoad alike, occurs_iff_of_alike_yamlLoad alike,
          callsYamlLoad_push_iff]
    exact ⟨regex, searches, same.mpr, fun _ => same⟩
  · replace inside := inside.resolve_left looking
    refine ⟨regex, searches, fun occurs => ?_, fun visible line => ?_⟩
    · rw [Array.push_eq_append]
      exact occurs.append_behind valid inside
    · have ends : regex.endsWithout '\r' = true :=
        ends.resolve_left (not_or.mpr ⟨visible, looking⟩)
      exact Regex.occurs_push_iff valid inside ends

section PushReturn

variable {rule : Rule} {line : Line}

/-- What a built-in rule finds on a line, it finds in front of a carriage return. -/
theorem isMatch_push_return
    (isBuiltin : rule ∈ builtin.rules)
    (searched : ¬rule.GivesUpOn line)
    (found : rule.pattern.isMatch line = true) :
    rule.pattern.isMatch (line.push '\r') = true := by
  obtain ⟨regex, searches, staysFound, -⟩ := exists_expression_at_lineEnd isBuiltin
  exact searches.isMatch_iff.mpr
    (.inl (staysFound ((searches.isMatch_iff_of_searched searched).mp found)))

/-- A rule whose construct cannot end in a blank character does not see a carriage
return at the end of a line. -/
theorem isMatch_push_return_eq
    (isBuiltin : rule ∈ builtin.rules)
    (visible : rule.id ∉ blankEndRuleIds)
    (searched : ¬rule.GivesUpOn line)
    (alsoSearched : ¬rule.GivesUpOn (line.push '\r')) :
    rule.pattern.isMatch (line.push '\r') = rule.pattern.isMatch line := by
  obtain ⟨regex, searches, -, same⟩ := exists_expression_at_lineEnd isBuiltin
  rw [Bool.eq_iff_iff, searches.isMatch_iff_of_searched alsoSearched,
    searches.isMatch_iff_of_searched searched]
  exact same visible

end PushReturn

end Catalog
end ScriptAudit
