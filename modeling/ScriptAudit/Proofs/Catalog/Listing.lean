import ScriptAudit.Proofs.Catalog.Builtin
import ScriptAudit.Proofs.Scan.Content

/-!
# The list of rules

What is listed about the rules is what a scan applies: the built-in rules that are not
switched off, each of them once. So a finding can be traced back to the one entry of the
list that describes it.
-/

namespace ScriptAudit

/-! ## Switching rules off -/

namespace RuleSet

/-- Rules can be switched off exactly when all of them are built in. -/
theorem without_eq_ok_iff
    {ids : List String}
    {rules : RuleSet} :
    without ids = .ok rules ↔ (∀ id ∈ ids, id ∈ Catalog.builtinIds) ∧ rules = ⟨ids⟩ := by
  unfold without
  cases unknown : ids.find? fun id => !Catalog.builtin.contains id with
  | some id =>
      have member : id ∈ ids := List.mem_of_find?_eq_some unknown
      have notContained : Catalog.builtin.contains id = false := by
        simpa using List.find?_some unknown
      have notBuiltin : id ∉ Catalog.builtinIds := fun isBuiltin => by
        rw [Catalog.builtin_contains_iff.mpr isBuiltin] at notContained
        cases notContained
      simp only [reduceCtorEq, false_iff]
      exact fun accepted => notBuiltin (accepted.1 id member)
  | none =>
      have known : ∀ id ∈ ids, id ∈ Catalog.builtinIds := fun id member => by
        have contained : (!Catalog.builtin.contains id) = false := by
          simpa using List.find?_eq_none.mp unknown id member
        exact Catalog.builtin_contains_iff.mp (by simpa using contained)
      simp only [Except.ok.injEq, eq_comm]
      exact ⟨fun same => ⟨known, same⟩, fun accepted => accepted.2⟩

/-- Switching rules off fails for the first of them that is not built in. -/
theorem without_eq_error_iff
    {ids : List String}
    {error : AuditError} :
    without ids = .error error ↔
      ∃ before id after, ids = before ++ id :: after ∧
        (∀ known ∈ before, known ∈ Catalog.builtinIds) ∧ id ∉ Catalog.builtinIds ∧
        error = .config (.unknownRule id) := by
  constructor
  · intro failure
    unfold without at failure
    split at failure
    · rename_i id unknown
      cases failure
      obtain ⟨notContained, before, after, listed, contained⟩ :=
        List.find?_eq_some_iff_append.mp unknown
      refine ⟨before, id, after, listed, fun known member => ?_, fun builtin => ?_, rfl⟩
      · exact Catalog.builtin_contains_iff.mp (by simpa using contained known member)
      · rw [Catalog.builtin_contains_iff.mpr builtin] at notContained
        cases notContained
    · cases failure
  · rintro ⟨before, id, after, rfl, known, unknown, rfl⟩
    have first : (before ++ id :: after).find? (fun id => !Catalog.builtin.contains id) =
        some id := by
      refine List.find?_eq_some_iff_append.mpr ⟨?_, before, after, rfl,
        fun earlier member => ?_⟩
      · simpa [← Catalog.builtin_contains_iff] using unknown
      · simpa using Catalog.builtin_contains_iff.mpr (known earlier member)
    simp only [without, first]

end RuleSet

/-! ## What is listed -/

/-- What is listed about a declared rule. -/
def Declaration.info
    (language : Language)
    (tier : Tier)
    (declaration : Declaration) : RuleInfo :=
  ⟨declaration.id, language, tier.severity, declaration.description,
    Pattern.foldMark ++ declaration.pattern⟩

/-- What is listed about the rules of a table, without those that are switched off. -/
def RuleTable.listing (disabled : List String) (table : RuleTable) : List RuleInfo :=
  (table.rules.filter fun declaration => declaration.id ∉ disabled).map
    (Declaration.info table.language table.tier)

/-- A compiled pattern keeps its text. -/
theorem Pattern.Compiled.source_of_ofPattern
    {pattern : String}
    {compiled : Compiled}
    (read : ofPattern pattern = .ok compiled) :
    compiled.source = foldMark ++ pattern := by
  simp only [ofPattern] at read
  split at read
  · exact congrArg source (Except.ok.inj read).symm
  · cases read

theorem Rule.Implements.info_eq
    {language : Language}
    {tier : Tier}
    {declaration : Declaration}
    {rule : Rule}
    (implements : Rule.Implements language tier declaration rule) :
    rule.info = declaration.info language tier := by
  rw [Rule.info, implements.id_eq, implements.language_eq, implements.tier_eq,
    implements.description_eq, Pattern.Compiled.source_of_ofPattern implements.compiles]
  rfl

/-- Of items with distinct keys, one alone passes a test that its key decides. -/
theorem filter_eq_singleton
    {items : List α}
    {key : α → β}
    {test : α → Bool}
    {item : α}
    (distinct : (items.map key).Nodup)
    (member : item ∈ items)
    (passes : test item = true)
    (only : ∀ other ∈ items, test other = true → key other = key item) :
    items.filter test = [item] := by
  obtain ⟨before, behind, rfl⟩ := List.append_of_mem member
  rw [List.map_append, List.map_cons, List.nodup_middle, ← List.map_append,
    List.nodup_cons] at distinct
  have fails : ∀ other ∈ before ++ behind, ¬test other = true := by
    intro other isOther otherPasses
    apply distinct.1
    have listed : other ∈ before ++ item :: behind :=
      ((List.sublist_cons_self item behind).append_left before).subset isOther
    rw [← only other listed otherPasses]
    exact List.mem_map_of_mem isOther
  rw [List.filter_append, List.filter_cons_of_pos passes,
    List.filter_eq_nil_iff.mpr fun other isOther =>
      fails other (List.mem_append_left _ isOther),
    List.filter_eq_nil_iff.mpr fun other isOther =>
      fails other (List.mem_append_right _ isOther), List.nil_append]

namespace RuleSet

/-- The list goes through the languages and lists the rules that are applied to each. -/
theorem list_eq_flatMap (rules : RuleSet) :
    rules.list =
      Language.all.flatMap fun language => (rules.rulesFor language).map Rule.info := by
  rw [list, Catalog.toList, List.filter_flatMap, List.map_flatMap]
  rfl

/-- The list has an entry for every built-in rule that is not switched off. -/
theorem list_perm (rules : RuleSet) :
    rules.list.Perm (Catalog.builtinTables.flatMap
      (RuleTable.listing rules.disabled)) := by
  have implemented : List.Forall₂ (fun rule => Rule.Implements rule.1 rule.2.1 rule.2.2)
      ((Catalog.declarations Catalog.builtinTables).filter fun rule =>
        rule.2.2.id ∉ rules.disabled)
      (Catalog.builtin.rules.filter rules.enables) := by
    refine List.rel_filter ?_ Catalog.builtin_implements
    intro declared rule implements
    simp [enables, implements.id_eq]
  have listed : (Catalog.builtin.rules.filter rules.enables).map Rule.info =
      ((Catalog.declarations Catalog.builtinTables).filter fun rule =>
        rule.2.2.id ∉ rules.disabled).map fun rule => rule.2.2.info rule.1 rule.2.1 :=
    Catalog.map_eq_of_implements implemented fun _ _ _ _ implements => implements.info_eq
  have ofTable : ∀ table : RuleTable,
      (table.entries.filter fun rule => rule.2.2.id ∉ rules.disabled).map
          (fun rule => rule.2.2.info rule.1 rule.2.1) =
        table.listing rules.disabled := by
    intro table
    rw [RuleTable.entries, List.filter_map, List.map_map]
    rfl
  have ofTables := ((Catalog.declarations_perm Catalog.builtinTables).filter fun rule =>
    rule.2.2.id ∉ rules.disabled).map fun rule => rule.2.2.info rule.1 rule.2.1
  rw [← listed, List.filter_flatMap, List.map_flatMap] at ofTables
  simp only [ofTable] at ofTables
  exact ((Catalog.builtin.toList_perm.filter rules.enables).map Rule.info).trans ofTables

/-- No rule is listed twice. -/
theorem list_ids_nodup (rules : RuleSet) : (rules.list.map RuleInfo.id).Nodup := by
  rw [list, List.map_map]
  have distinct : (Catalog.builtin.toList.map Rule.id).Nodup :=
    (Catalog.builtin.toList_perm.map Rule.id).nodup_iff.mpr Catalog.builtin_ids_nodup
  exact distinct.sublist (List.filter_sublist.map Rule.id)

theorem mem_list_of_mem_rulesFor
    {rules : RuleSet}
    {language : Language}
    {rule : Rule}
    (applied : rule ∈ rules.rulesFor language) :
    rule.info ∈ rules.list := by
  rw [list_eq_flatMap]
  exact List.mem_flatMap.mpr
    ⟨language, Catalog.mem_all language, List.mem_map_of_mem applied⟩

end RuleSet

/-- An entry of the list that says what a finding says about its rule. -/
def RuleInfo.Describes (info : RuleInfo) (finding : Finding) : Prop :=
  finding.ruleId = some info.id ∧ finding.description = some info.description ∧
    finding.severity = info.severity

instance (info : RuleInfo) (finding : Finding) : Decidable (info.Describes finding) :=
  inferInstanceAs (Decidable (_ ∧ _ ∧ _))

namespace RuleSet

/-- A finding is described by the entry of its rule and by no other. -/
theorem filter_describes_of_mem_content
    {rules : RuleSet}
    {file : String}
    {text : List Char}
    {language : Language}
    {finding : Finding}
    (member : finding ∈ Scan.content rules file text language) :
    ∃ info, rules.list.filter (fun entry => entry.Describes finding) = [info] ∧
      info.language = language := by
  obtain ⟨rule, applied, line, number, _, _, rfl⟩ := Scan.mem_content_iff.mp member
  refine ⟨rule.info, ?_, (mem_rulesFor_iff.mp applied).2.1⟩
  apply filter_eq_singleton rules.list_ids_nodup (mem_list_of_mem_rulesFor applied)
  · exact decide_eq_true ⟨rfl, rfl, rfl⟩
  · intro entry _ describes
    have named := (of_decide_eq_true describes).1
    exact (Option.some.inj named).symm

/-- Rules can be switched off exactly when all of them are built in; the first one that
is not is the error. The list then goes through the languages and has one entry for
every built-in rule that is left, and every finding in a text of a language is described
by one entry, which is for that language. -/
theorem list_describes_scans (ids : List String) :
    ((∃ rules, without ids = .ok rules) ↔ ∀ id ∈ ids, id ∈ Catalog.builtinIds) ∧
    (∀ error, without ids = .error error ↔
      ∃ before id after, ids = before ++ id :: after ∧
        (∀ known ∈ before, known ∈ Catalog.builtinIds) ∧ id ∉ Catalog.builtinIds ∧
        error = .config (.unknownRule id)) ∧
    ∀ rules, without ids = .ok rules →
      rules.list =
        Language.all.flatMap (fun language => (rules.rulesFor language).map Rule.info) ∧
      rules.list.Perm (Catalog.builtinTables.flatMap (RuleTable.listing ids)) ∧
      (rules.list.map RuleInfo.id).Nodup ∧
      ∀ file text language, ∀ finding ∈ Scan.content rules file text language,
        ∃ info, rules.list.filter (fun entry => entry.Describes finding) = [info] ∧
          info.language = language := by
  refine ⟨?_, fun error => without_eq_error_iff, fun rules accepted => ?_⟩
  · constructor
    · rintro ⟨rules, accepted⟩
      exact (without_eq_ok_iff.mp accepted).1
    · intro known
      exact ⟨⟨ids⟩, without_eq_ok_iff.mpr ⟨known, rfl⟩⟩
  · obtain ⟨-, rfl⟩ := without_eq_ok_iff.mp accepted
    exact ⟨list_eq_flatMap _, list_perm _, list_ids_nodup _,
      fun file text language finding => filter_describes_of_mem_content⟩

theorem list_describes_scans_sample :
    without ["PY-001", "SH-999"] = .error (.config (.unknownRule "SH-999")) ∧
      ∃ rules, without ["PY-001", "JS-101"] = .ok rules ∧ rules.list.length = 40 := by
  constructor
  · apply ((list_describes_scans ["PY-001", "SH-999"]).2.1 _).mpr
    exact ⟨["PY-001"], "SH-999", [], rfl, by decide, by decide, rfl⟩
  · obtain ⟨succeeds, _, lists⟩ := list_describes_scans ["PY-001", "JS-101"]
    obtain ⟨rules, accepted⟩ := succeeds.mpr (by decide)
    refine ⟨rules, accepted, ?_⟩
    rw [(lists rules accepted).2.1.length_eq]
    decide

end RuleSet
end ScriptAudit
