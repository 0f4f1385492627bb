import ScriptAudit.Proofs.Catalog.YamlLoad

/-!
# Padding cannot hide a construct

What a built-in rule matches, it still matches with text in front of it and behind it.
Five rules ask for the start of a word and need text in front that does not end in a
word. The rule for requests to other hosts looks at how the line goes on, so that text
behind may turn another host into this one; the rule for `yaml.load` only seems to look.
-/

namespace ScriptAudit
namespace Catalog

open Pattern (Regex Line)

/-- A call of `yaml.load` stays one when text is put behind the line. -/
theorem CallsYamlLoad.append_behind
    {line behind : Line}
    (calls : CallsYamlLoad line) :
    CallsYamlLoad (line ++ behind) := by
  obtain ⟨before, name, gap, after, cut, same, blank⟩ := calls
  exact ⟨before, name, gap, after ++ behind.toList, by simp [cut], same, blank⟩

/-- The expression of a built-in rule, with the padding that it tolerates. -/
theorem exists_expression_with_padding
    {rule : Rule}
    (isBuiltin : rule ∈ builtin.rules) :
    ∃ regex, rule.SearchesFor regex ∧
      (∀ {front line : Line}, (rule.id ∈ wordRuleIds → front.EndsOffWord) →
        regex.Occurs line → regex.Occurs (front ++ line)) ∧
      (rule.id ≠ "PY-015" → ∀ {line behind : Line},
        regex.Occurs line → regex.Occurs (line ++ behind)) := by
  obtain ⟨regex, searches, checked⟩ := exists_expression_of_mem_builtin isBuiltin
  have tolerates := checked _ builtin_toleratesPadding
  simp only [toleratesPadding, Bool.and_eq_true, Bool.or_eq_true, decide_eq_true_eq]
    at tolerates
  obtain ⟨⟨valid, forward⟩, inside⟩ := tolerates
  refine ⟨regex, searches, fun offWord occurs => ?_,
    fun notRequest line behind occurs => ?_⟩
  · exact occurs.append_front forward fun words => offWord (of_decide_eq_true words)
  · rcases inside with looking | inside
    · have named : rule.id = "PY-104" := by
        simpa [lookingRuleIds, notRequest] using looking
      have same : regex.alike yamlLoad = true := by
        simpa [named] using checked _ builtin_yamlLoad
      rw [occurs_iff_of_alike_yamlLoad same] at occurs ⊢
      exact occurs.append_behind
    · exact occurs.append_behind valid inside

/-- What a built-in rule finds in a line, it finds in every longer line around it:
behind any text, in front of it, and between two. The rule for requests to other hosts
needs the line to go on as it does, and the rules that ask for the start of a word need
text in front that does not end in a word. -/
theorem padding_hides_nothing
    {rule : Rule}
    {line : Line}
    (isBuiltin : rule ∈ builtin.rules)
    (found : rule.pattern.isMatch line = true)
    (searched : ¬rule.GivesUpOn line)
    (front behind : Line) :
    (rule.id ≠ "PY-015" → rule.pattern.isMatch (line ++ behind) = true) ∧
      (rule.id ∉ wordRuleIds → rule.pattern.isMatch (front ++ line) = true) ∧
      (rule.id ∈ wordRuleIds → front.EndsOffWord →
        rule.pattern.isMatch (front ++ line) = true) ∧
      (rule.id ≠ "PY-015" → (rule.id ∈ wordRuleIds → front.EndsOffWord) →
        rule.pattern.isMatch (front ++ line ++ behind) = true) := by
  obtain ⟨regex, searches, padsFront, padsBehind⟩ :=
    exists_expression_with_padding isBuiltin
  have occurs := (searches.isMatch_iff_of_searched searched).mp found
  have finds : ∀ {padded : Line}, regex.Occurs padded →
      rule.pattern.isMatch padded = true :=
    fun occurs => searches.isMatch_iff.mpr (.inl occurs)
  refine ⟨fun notRequest => ?_, fun anywhere => ?_, fun _ offWord => ?_,
    fun notRequest offWord => ?_⟩
  · exact finds (padsBehind notRequest occurs)
  · exact finds (padsFront (fun words => absurd words anywhere) occurs)
  · exact finds (padsFront (fun _ => offWord) occurs)
  · exact finds (padsBehind notRequest (padsFront offWord occurs))

/-- A call of `yaml.load`. -/
def Sample.load : Line := "yaml.load(f)".toList.toArray

theorem padding_hides_nothing_load :
    ∃ rule ∈ builtin.rules, rule.id = "PY-104" ∧ rule.pattern.isMatch Sample.load = true ∧
      ¬rule.GivesUpOn Sample.load ∧
      rule.pattern.isMatch ("config = safe_".toList.toArray ++ Sample.load ++
        "  # Loader=yaml.SafeLoader".toList.toArray) = true := by
  have known : "PY-104" ∈ builtinIds := by decide
  obtain ⟨rule, isBuiltin, named⟩ := exists_builtin_of_id known
  have searched : ¬rule.GivesUpOn Sample.load :=
    not_givesUpOn_of_short isBuiltin (by decide +kernel)
  have calls : CallsYamlLoad Sample.load :=
    ⟨[], "yaml.load".toList, [], "f)".toList, by decide +kernel,
      by decide +kernel, by simp⟩
  have found : rule.pattern.isMatch Sample.load = true := by
    obtain ⟨regex, searches, occurs_iff⟩ := exists_yamlLoad_expression isBuiltin named
    rwa [searches.isMatch_iff_of_searched searched, occurs_iff]
  refine ⟨rule, isBuiltin, named, found, searched, ?_⟩
  exact (padding_hides_nothing isBuiltin found searched _ _).2.2.2 (by simp [named])
    (by simp [named, wordRuleIds])

end Catalog
end ScriptAudit
