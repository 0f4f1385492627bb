import ScriptAudit.Proofs.Catalog.Checks

/-!
# The expressions of the built-in rules

A built-in rule searches for the expression that its declared pattern denotes. None of
these expressions refers to a group or keeps only one way, so a rule matches a line
exactly if its expression occurs in it, or if the search was given up. What can be
checked of an expression is checked on the patterns of the tables and then holds of all
built-in rules.
-/

namespace ScriptAudit

open Pattern (Regex)

/-- A compiled pattern serves the expression that the pattern denotes. -/
theorem Pattern.Compiled.exists_serves
    {pattern : String}
    {compiled : Compiled}
    (accepted : Compiled.ofPattern pattern = .ok compiled) :
    ∃ regex, expression? pattern.toList = some regex ∧ compiled.engine.Serves regex := by
  simp only [Pattern.Compiled.ofPattern, String.toList_append] at accepted
  split at accepted
  · rename_i engine made
    obtain ⟨regex, read, serves⟩ := Pattern.Engine.exists_serves made
    refine ⟨regex, read, ?_⟩
    rw [← Except.ok.inj accepted]
    exact serves
  · cases accepted

namespace Rule

variable {rule : Rule} {regex : Regex} {line : Pattern.Line}

/-- The search of a rule was given up on a line. -/
def GivesUpOn (rule : Rule) (line : Pattern.Line) : Prop :=
  rule.pattern.engine.GivesUpOn line

/-- A rule searches for an expression whose matches depend on the line alone. -/
structure SearchesFor (rule : Rule) (regex : Regex) : Prop where
  serves : rule.pattern.engine.Serves regex
  direct : regex.isDirect = true

theorem SearchesFor.isMatch_iff (searches : rule.SearchesFor regex) :
    rule.pattern.isMatch line = true ↔ regex.Occurs line ∨ rule.GivesUpOn line :=
  Pattern.Compiled.isMatch_iff_of_serves searches.serves searches.direct line

/-- A rule that does not give up on a line matches it if its expression occurs there. -/
theorem SearchesFor.isMatch_iff_of_searched
    (searches : rule.SearchesFor regex)
    (searched : ¬rule.GivesUpOn line) :
    rule.pattern.isMatch line = true ↔ regex.Occurs line := by
  rw [searches.isMatch_iff, or_iff_left searched]

end Rule

namespace Catalog

variable {rule : Rule}

/-- A rule that was made for one of some declarations does what that declaration says.
-/
theorem exists_declared_of_implements
    {declared : List (Language × Tier × Declaration)}
    {rules : List Rule}
    (implemented : List.Forall₂ (fun rule => Rule.Implements rule.1 rule.2.1 rule.2.2)
      declared rules)
    (member : rule ∈ rules) :
    ∃ entry ∈ declared, Rule.Implements entry.1 entry.2.1 entry.2.2 rule := by
  induction implemented with
  | nil => cases member
  | cons implements _ inductionHypothesis =>
      rcases List.mem_cons.mp member with rfl | later
      · exact ⟨_, List.mem_cons_self, implements⟩
      · obtain ⟨entry, declares, alsoImplements⟩ := inductionHypothesis later
        exact ⟨entry, List.mem_cons_of_mem _ declares, alsoImplements⟩

/-- Every built-in rule does what some declaration of the tables says. -/
theorem exists_declaration_of_mem_builtin (isBuiltin : rule ∈ builtin.rules) :
    ∃ table ∈ builtinTables, ∃ declaration ∈ table.rules,
      Rule.Implements table.language table.tier declaration rule := by
  obtain ⟨entry, declares, implements⟩ :=
    exists_declared_of_implements builtin_implements isBuiltin
  have listed := (declarations_perm builtinTables).mem_iff.mp declares
  obtain ⟨table, present, declaration, declared, rfl⟩ : ∃ table ∈ builtinTables,
      ∃ declaration ∈ table.rules, (table.language, table.tier, declaration) = entry := by
    simpa [RuleTable.entries] using listed
  exact ⟨table, present, declaration, declared, implements⟩

/-- Every declared id belongs to a built-in rule. -/
theorem exists_builtin_of_id {id : String} (known : id ∈ builtinIds) :
    ∃ rule ∈ builtin.rules, rule.id = id := by
  rwa [← builtin_ids, List.mem_map] at known

/-- Every built-in rule searches for an expression, and what is checked of the
expressions of the built-in tables holds of it. -/
theorem exists_expression_of_mem_builtin (isBuiltin : rule ∈ builtin.rules) :
    ∃ regex, rule.SearchesFor regex ∧
      ∀ check, PassesOnBuiltin check → check rule.id regex = true := by
  obtain ⟨table, present, declaration, declared, implements⟩ :=
    exists_declaration_of_mem_builtin isBuiltin
  obtain ⟨regex, read, serves⟩ := Pattern.Compiled.exists_serves implements.compiles
  have checked : ∀ check, PassesOnBuiltin check → check rule.id regex = true := by
    intro check passes
    have passesHere := passes table present declaration declared
    rw [read, Option.all_some, ← implements.id_eq] at passesHere
    exact passesHere
  exact ⟨regex, ⟨serves, checked _ builtin_direct⟩, checked⟩

end Catalog
end ScriptAudit
