import Mathlib.Data.List.Forall2
import Mathlib.Data.List.Nodup
import Mathlib.Data.List.Perm.Basic
import ScriptAudit.Catalog

/-!
# Compiling tables

Tables make a catalogue exactly when they repeat no id and each of their patterns can be
read. The catalogue then holds one rule for every declaration, those of the high tier
first, and depends on the order of tables of the same language and tier only. Otherwise
the first declaration that is refused is reported.
-/

namespace ScriptAudit

/-- A rule that does what a declaration for a language and a tier says. -/
structure Rule.Implements
    (language : Language)
    (tier : Tier)
    (declaration : Declaration)
    (rule : Rule) : Prop where
  id_eq : rule.id = declaration.id
  language_eq : rule.language = language
  tier_eq : rule.tier = tier
  description_eq : rule.description = declaration.description
  compiles : Pattern.Compiled.ofPattern declaration.pattern = .ok rule.pattern

theorem Rule.Implements.eq
    {language : Language}
    {tier : Tier}
    {declaration : Declaration}
    {rule : Rule}
    (implements : Rule.Implements language tier declaration rule) :
    rule = ⟨declaration.id, language, tier, declaration.description, rule.pattern⟩ := by
  rw [← implements.id_eq, ← implements.language_eq, ← implements.tier_eq,
    ← implements.description_eq]

/-- There is only one rule that does what a declaration says. -/
theorem Rule.Implements.unique (language : Language) (tier : Tier) :
    Relator.RightUnique (Rule.Implements language tier) := by
  intro declaration rule other implements alsoImplements
  have samePattern : rule.pattern = other.pattern :=
    Except.ok.inj (implements.compiles.symm.trans alsoImplements.compiles)
  rw [implements.eq, samePattern, ← alsoImplements.eq]

/-- The declarations of a table, each with its language and tier. -/
def RuleTable.entries (table : RuleTable) : List (Language × Tier × Declaration) :=
  table.rules.map fun declaration => (table.language, table.tier, declaration)

namespace Catalog

/-! ## The order in which tables are read -/

/-- The tables in the order in which they are read, those of the high tier first. -/
def readingOrder (tables : List RuleTable) : List RuleTable :=
  (tables.filter fun table => table.tier = .high) ++
    tables.filter fun table => table.tier = .medium

/-- The declarations for a language and a tier, in the order of the tables and of the
declarations within a table. -/
def declaredFor
    (tables : List RuleTable)
    (language : Language)
    (tier : Tier) : List Declaration :=
  (tables.filter fun table => table.language = language ∧ table.tier = tier).flatMap
    RuleTable.rules

theorem readingOrder_perm (tables : List RuleTable) :
    (readingOrder tables).Perm tables := by
  have rest : (fun table : RuleTable => decide (table.tier = .medium)) =
      fun table => !decide (table.tier = .high) := by
    funext table
    cases table.tier <;> rfl
  rw [readingOrder, rest]
  exact List.filter_append_perm _ tables

theorem declarations_eq (tables : List RuleTable) :
    declarations tables = (readingOrder tables).flatMap RuleTable.entries := by
  have ofTier : ∀ tier, (tables.filter fun table => table.tier = tier).flatMap
        (fun table => table.rules.map fun rule => (table.language, tier, rule)) =
      (tables.filter fun table => table.tier = tier).flatMap RuleTable.entries := by
    intro tier
    refine List.flatMap_congr fun table member => ?_
    rw [RuleTable.entries, of_decide_eq_true (List.mem_filter.mp member).2]
  rw [declarations, Tier.scanOrder, List.flatMap_cons,
    List.flatMap_singleton, ofTier, ofTier, readingOrder, List.flatMap_append]

theorem declarations_perm (tables : List RuleTable) :
    (declarations tables).Perm (tables.flatMap RuleTable.entries) := by
  rw [declarations_eq]
  exact (readingOrder_perm tables).flatMap_right _

theorem flatMap_entries_map (tables : List RuleTable) :
    (tables.flatMap RuleTable.entries).map (fun declared => declared.2.2) =
      tables.flatMap RuleTable.rules := by
  rw [List.map_flatMap]
  refine List.flatMap_congr fun table _ => ?_
  rw [RuleTable.entries, List.map_map]
  exact List.map_id _

/-- The declarations for a language in the order in which they are read. -/
theorem filter_declarations (tables : List RuleTable) (language : Language) :
    (declarations tables).filter (fun declared => declared.1 = language) =
      (declaredFor tables language .high).map (fun rule => (language, .high, rule)) ++
        (declaredFor tables language .medium).map fun rule =>
          (language, .medium, rule) := by
  have ofTier : ∀ tier, ((tables.filter fun table => table.tier = tier).flatMap
        RuleTable.entries).filter (fun declared => declared.1 = language) =
      (declaredFor tables language tier).map fun rule => (language, tier, rule) := by
    intro tier
    rw [declaredFor]
    induction tables with
    | nil => rfl
    | cons table tables inductionHypothesis =>
        by_cases sameTier : table.tier = tier
        · by_cases sameLanguage : table.language = language
          · simp [sameTier, sameLanguage, inductionHypothesis, RuleTable.entries]
          · simp [sameTier, sameLanguage, inductionHypothesis, RuleTable.entries]
        · simp [sameTier, inductionHypothesis]
  rw [declarations_eq, readingOrder, List.flatMap_append,
    List.filter_append, ofTier, ofTier]

/-! ## Compiling one declaration after the other -/

/-- The reason to refuse a declaration, given the ids of those before it. A repeated id
is noticed first. -/
inductive Refused (seen : List String) (declaration : Declaration) : CatalogError → Prop
  | duplicate
      (repeated : declaration.id ∈ seen) :
      Refused seen declaration (.duplicate declaration.id)
  | malformed {cause : Pattern.PatternError}
      (fresh : declaration.id ∉ seen)
      (unreadable : Pattern.Compiled.ofPattern declaration.pattern = .error cause) :
      Refused seen declaration (.malformed declaration.id cause)

theorem Refused.congr
    {seen other : List String}
    {declaration : Declaration}
    {error : CatalogError}
    (same : ∀ id, id ∈ seen ↔ id ∈ other)
    (refused : Refused seen declaration error) :
    Refused other declaration error := by
  cases refused with
  | duplicate repeated => exact .duplicate ((same _).mp repeated)
  | malformed fresh unreadable => exact .malformed (mt (same _).mpr fresh) unreadable

theorem Refused.unique
    {seen : List String}
    {declaration : Declaration}
    {error other : CatalogError}
    (refused : Refused seen declaration error)
    (alsoRefused : Refused seen declaration other) :
    error = other := by
  cases refused with
  | duplicate repeated =>
      cases alsoRefused with
      | duplicate _ => rfl
      | malformed fresh _ => exact absurd repeated fresh
  | malformed fresh unreadable =>
      cases alsoRefused with
      | duplicate repeated => exact absurd repeated fresh
      | malformed _ alsoUnreadable =>
          rw [Except.error.inj (unreadable.symm.trans alsoUnreadable)]

/-- A declaration is refused, or its id is new and its pattern can be read. -/
theorem not_refused_iff
    {seen : List String}
    {declaration : Declaration} :
    (∀ error, ¬Refused seen declaration error) ↔
      declaration.id ∉ seen ∧
        ∃ pattern, Pattern.Compiled.ofPattern declaration.pattern = .ok pattern := by
  constructor
  · intro accepted
    have fresh : declaration.id ∉ seen := fun repeated => accepted _ (.duplicate repeated)
    cases read : Pattern.Compiled.ofPattern declaration.pattern with
    | ok pattern => exact ⟨fresh, pattern, rfl⟩
    | error cause => exact absurd (.malformed fresh read) (accepted _)
  · rintro ⟨fresh, pattern, read⟩ error refused
    cases refused with
    | duplicate repeated => exact fresh repeated
    | malformed _ unreadable =>
        rw [read] at unreadable
        cases unreadable

section

variable {seen : List String} {declaration : Declaration}
  {language : Language} {tier : Tier}

theorem compileFrom_of_refused
    {error : CatalogError}
    (refused : Refused seen declaration error)
    (rest : List (Language × Tier × Declaration)) :
    compileFrom seen ((language, tier, declaration) :: rest) = .error error := by
  cases refused with
  | duplicate repeated => rw [compileFrom, if_pos repeated]
  | malformed fresh unreadable => rw [compileFrom, if_neg fresh, unreadable]

theorem compileFrom_of_read
    {pattern : Pattern.Compiled}
    (fresh : declaration.id ∉ seen)
    (read : Pattern.Compiled.ofPattern declaration.pattern = .ok pattern)
    (rest : List (Language × Tier × Declaration)) :
    compileFrom seen ((language, tier, declaration) :: rest) =
      (compileFrom (declaration.id :: seen) rest).map
        (⟨declaration.id, language, tier, declaration.description, pattern⟩ :: ·) := by
  rw [compileFrom, if_neg fresh, read]
  cases compileFrom (declaration.id :: seen) rest <;> rfl

/-- A first declaration is compiled to a rule of its own when it is not refused. -/
theorem compileFrom_cons_eq_ok_iff
    {rest : List (Language × Tier × Declaration)}
    {rules : List Rule} :
    compileFrom seen ((language, tier, declaration) :: rest) = .ok rules ↔
      declaration.id ∉ seen ∧ ∃ rule others,
        Rule.Implements language tier declaration rule ∧
        compileFrom (declaration.id :: seen) rest = .ok others ∧
        rules = rule :: others := by
  constructor
  · intro compiled
    have accepted : ∀ error, ¬Refused seen declaration error := by
      intro error refused
      rw [compileFrom_of_refused refused] at compiled
      cases compiled
    obtain ⟨fresh, pattern, read⟩ := not_refused_iff.mp accepted
    rw [compileFrom_of_read fresh read] at compiled
    cases succeeded : compileFrom (declaration.id :: seen) rest with
    | error error =>
        rw [succeeded] at compiled
        cases compiled
    | ok others =>
        rw [succeeded] at compiled
        exact ⟨fresh, _, others, ⟨rfl, rfl, rfl, rfl, read⟩, rfl,
          (Except.ok.inj compiled).symm⟩
  · rintro ⟨fresh, rule, others, implements, succeeded, rfl⟩
    rw [compileFrom_of_read fresh implements.compiles, succeeded, ← implements.eq]
    rfl

/-- Compiling fails for the first declaration, or behind it when it is not refused. -/
theorem compileFrom_cons_eq_error_iff
    {rest : List (Language × Tier × Declaration)}
    {error : CatalogError} :
    compileFrom seen ((language, tier, declaration) :: rest) = .error error ↔
      Refused seen declaration error ∨
        (∀ other, ¬Refused seen declaration other) ∧
          compileFrom (declaration.id :: seen) rest = .error error := by
  by_cases isRefused : ∃ cause, Refused seen declaration cause
  · obtain ⟨cause, refused⟩ := isRefused
    rw [compileFrom_of_refused refused, Except.error.injEq]
    constructor
    · rintro rfl
      exact .inl refused
    · rintro (alsoRefused | ⟨accepted, _⟩)
      · exact refused.unique alsoRefused
      · exact absurd refused (accepted cause)
  · have accepted := not_exists.mp isRefused
    obtain ⟨fresh, pattern, read⟩ := not_refused_iff.mp accepted
    have passedOn : compileFrom seen ((language, tier, declaration) :: rest) =
        .error error ↔
        compileFrom (declaration.id :: seen) rest = .error error := by
      rw [compileFrom_of_read fresh read]
      cases compileFrom (declaration.id :: seen) rest <;> simp [Except.map]
    rw [passedOn, or_iff_right (accepted error), and_iff_right accepted]

end

/-- Declarations are compiled exactly when their ids are new and distinct and each can
be turned into a rule that does what it says. -/
theorem compileFrom_eq_ok_iff
    {seen : List String}
    {declared : List (Language × Tier × Declaration)}
    {rules : List Rule} :
    compileFrom seen declared = .ok rules ↔
      (∀ id ∈ seen, id ∉ declared.map fun rule => rule.2.2.id) ∧
        (declared.map fun rule => rule.2.2.id).Nodup ∧
        List.Forall₂ (fun rule => Rule.Implements rule.1 rule.2.1 rule.2.2)
          declared rules := by
  induction declared generalizing seen rules with
  | nil => simp [compileFrom, eq_comm]
  | cons head rest inductionHypothesis =>
      obtain ⟨language, tier, declaration⟩ := head
      rw [compileFrom_cons_eq_ok_iff, List.map_cons, List.nodup_cons,
        List.forall₂_cons_left_iff]
      simp only [inductionHypothesis]
      constructor
      · rintro ⟨fresh, rule, others, implements, ⟨unused, distinct, implemented⟩, rfl⟩
        refine ⟨?_, ⟨unused _ List.mem_cons_self, distinct⟩, rule, others, implements,
          implemented, rfl⟩
        intro id isSeen member
        rcases List.mem_cons.mp member with rfl | later
        · exact fresh isSeen
        · exact unused id (List.mem_cons_of_mem _ isSeen) later
      · rintro ⟨unused, ⟨unrepeated, distinct⟩, rule, others,
          implements, implemented, rfl⟩
        refine ⟨fun isSeen => unused _ isSeen List.mem_cons_self,
          rule, others, implements, ⟨?_, distinct, implemented⟩, rfl⟩
        intro id isSeen later
        rcases List.mem_cons.mp isSeen with rfl | isSeen
        · exact unrepeated later
        · exact unused id isSeen (List.mem_cons_of_mem _ later)

/-- The error of the first declaration that is refused, given the ids already seen. -/
inductive FirstRefused (error : CatalogError) : List String → List Declaration → Prop
  | here {seen declaration}
      (refused : Refused seen declaration error)
      (rest : List Declaration) :
      FirstRefused error seen (declaration :: rest)
  | later {seen declaration rest}
      (accepted : ∀ other, ¬Refused seen declaration other)
      (first : FirstRefused error (declaration.id :: seen) rest) :
      FirstRefused error seen (declaration :: rest)

/-- The first declaration that is refused, with those in front of it and behind it. -/
theorem firstRefused_iff
    {seen : List String}
    {declared : List Declaration}
    {error : CatalogError} :
    FirstRefused error seen declared ↔
      ∃ before declaration after, declared = before ++ declaration :: after ∧
        Refused (before.map Declaration.id ++ seen) declaration error ∧
        ∀ front earlier rest, before = front ++ earlier :: rest →
          ∀ other, ¬Refused (front.map Declaration.id ++ seen) earlier other := by
  have moved : ∀ (declaration : Declaration) (front : List Declaration)
      (seen : List String) id, id ∈ (declaration :: front).map Declaration.id ++ seen ↔
        id ∈ front.map Declaration.id ++ declaration.id :: seen := by
    intro declaration front seen id
    simp [or_left_comm]
  constructor
  · intro first
    induction first with
    | here refused rest => exact ⟨[], _, rest, rfl, refused, by simp⟩
    | @later seen accepted _ isAccepted _ inductionHypothesis =>
        obtain ⟨before, declaration, after, rfl, refused, noneEarlier⟩ :=
          inductionHypothesis
        refine ⟨accepted :: before, declaration, after, rfl,
          refused.congr fun id => (moved accepted before seen id).symm, ?_⟩
        intro front earlier rest split other refusedEarlier
        cases front with
        | nil =>
            obtain ⟨rfl, -⟩ := List.cons.inj split
            exact isAccepted other refusedEarlier
        | cons head front =>
            obtain ⟨rfl, inside⟩ := List.cons.inj split
            exact noneEarlier front earlier rest inside other
              (refusedEarlier.congr (moved accepted front seen))
  · rintro ⟨before, declaration, after, rfl, refused, noneEarlier⟩
    induction before generalizing seen with
    | nil => exact .here refused after
    | cons accepted before inductionHypothesis =>
        apply FirstRefused.later
        · exact noneEarlier [] accepted before rfl
        · apply inductionHypothesis (refused.congr (moved accepted before seen))
          rintro front earlier rest rfl other refusedEarlier
          exact noneEarlier (accepted :: front) earlier rest rfl other
            (refusedEarlier.congr fun id => (moved accepted front seen id).symm)

/-- Compiling declarations fails exactly for the first of them that is refused. -/
theorem compileFrom_eq_error_iff
    {seen : List String}
    {declared : List (Language × Tier × Declaration)}
    {error : CatalogError} :
    compileFrom seen declared = .error error ↔
      FirstRefused error seen (declared.map fun rule => rule.2.2) := by
  induction declared generalizing seen with
  | nil =>
      constructor
      · intro failed
        cases failed
      · intro first
        cases first
  | cons head rest inductionHypothesis =>
      obtain ⟨language, tier, declaration⟩ := head
      rw [compileFrom_cons_eq_error_iff, inductionHypothesis]
      constructor
      · rintro (refused | ⟨accepted, first⟩)
        · exact .here refused _
        · exact .later accepted first
      · intro first
        cases first with
        | here refused _ => exact .inl refused
        | later accepted first => exact .inr ⟨accepted, first⟩

/-! ## Catalogues -/

theorem mem_all (language : Language) : language ∈ Language.all := by
  cases language <;> decide

theorem mem_toList_iff
    {catalog : Catalog}
    {rule : Rule} :
    rule ∈ catalog.toList ↔ rule ∈ catalog.rules := by
  simp [toList, rulesFor, mem_all]

theorem contains_iff
    {catalog : Catalog}
    {id : String} :
    catalog.contains id = true ↔ id ∈ catalog.rules.map Rule.id := by
  simp [contains, mem_toList_iff]

/-- Grouping rules by language loses none and repeats none. -/
theorem toList_perm (catalog : Catalog) : catalog.toList.Perm catalog.rules := by
  obtain ⟨rules⟩ := catalog
  simp only [toList, Language.all, rulesFor, List.flatMap_cons, List.flatMap_nil,
    List.append_nil]
  induction rules with
  | nil => exact .nil
  | cons rule rules inductionHypothesis =>
      refine .trans ?_ (inductionHypothesis.cons rule)
      cases spoken : rule.language with
      | python => simp [spoken]
      | bash => simp [spoken]
      | javascript =>
          simp only [List.filter_cons, spoken, ← List.append_assoc]
          exact List.perm_middle

/-- The ids of the declarations in the order in which they are read are those of the
tables. -/
theorem map_id_declarations_perm (tables : List RuleTable) :
    ((declarations tables).map fun rule => rule.2.2.id).Perm
      ((tables.flatMap RuleTable.rules).map Declaration.id) := by
  have ids := ((declarations_perm tables).map fun rule => rule.2.2).map Declaration.id
  rw [flatMap_entries_map, List.map_map] at ids
  exact ids

theorem compile_eq_ok_iff
    {tables : List RuleTable}
    {catalog : Catalog} :
    compile tables = .ok catalog ↔
      ((tables.flatMap RuleTable.rules).map Declaration.id).Nodup ∧
        List.Forall₂ (fun rule => Rule.Implements rule.1 rule.2.1 rule.2.2)
          (declarations tables) catalog.rules := by
  have succeeds : compile tables = .ok catalog ↔
      compileFrom [] (declarations tables) = .ok catalog.rules := by
    rw [compile]
    cases compileFrom [] (declarations tables) with
    | error error => simp [Except.map]
    | ok rules =>
        rw [Except.map, Except.ok.injEq, Except.ok.injEq]
        exact ⟨fun same => same ▸ rfl, fun same => same ▸ rfl⟩
  rw [succeeds, compileFrom_eq_ok_iff, (map_id_declarations_perm tables).nodup_iff]
  simp

theorem compile_eq_error_iff
    {tables : List RuleTable}
    {error : CatalogError} :
    compile tables = .error error ↔
      FirstRefused error [] ((readingOrder tables).flatMap RuleTable.rules) := by
  rw [← flatMap_entries_map, ← declarations_eq, ← compileFrom_eq_error_iff, compile]
  cases compileFrom [] (declarations tables) <;> simp [Except.map]

/-- Declarations can be turned into rules exactly when their patterns can be read. -/
theorem exists_implements_iff {declared : List (Language × Tier × Declaration)} :
    (∃ rules, List.Forall₂ (fun rule => Rule.Implements rule.1 rule.2.1 rule.2.2)
        declared rules) ↔
      ∀ rule ∈ declared,
        ∃ pattern, Pattern.Compiled.ofPattern rule.2.2.pattern = .ok pattern := by
  constructor
  · rintro ⟨rules, implemented⟩
    induction implemented with
    | nil => simp
    | cons implements _ inductionHypothesis =>
        exact List.forall_mem_cons.mpr ⟨⟨_, implements.compiles⟩, inductionHypothesis⟩
  · intro read
    induction declared with
    | nil => exact ⟨[], .nil⟩
    | cons head rest inductionHypothesis =>
        obtain ⟨⟨pattern, compiles⟩, later⟩ := List.forall_mem_cons.mp read
        obtain ⟨rules, implemented⟩ := inductionHypothesis later
        exact ⟨⟨head.2.2.id, head.1, head.2.1, head.2.2.description, pattern⟩ :: rules,
          .cons ⟨rfl, rfl, rfl, rfl, compiles⟩ implemented⟩

/-- What follows from each declaration about its rule holds of all rules in their order.
-/
theorem map_eq_of_implements
    {declared : List (Language × Tier × Declaration)}
    {rules : List Rule}
    {ofRule : Rule → α}
    {ofDeclared : Language × Tier × Declaration → α}
    (implemented : List.Forall₂ (fun rule => Rule.Implements rule.1 rule.2.1 rule.2.2)
      declared rules)
    (same : ∀ language tier declaration rule,
      Rule.Implements language tier declaration rule →
        ofRule rule = ofDeclared (language, tier, declaration)) :
    rules.map ofRule = declared.map ofDeclared := by
  induction implemented with
  | nil => rfl
  | cons implements _ inductionHypothesis =>
      rw [List.map_cons, List.map_cons, inductionHypothesis, same _ _ _ _ implements]

/-- Tables make a catalogue exactly when they repeat no id and all their patterns can be
read. -/
theorem exists_compile_iff {tables : List RuleTable} :
    (∃ catalog, compile tables = .ok catalog) ↔
      ((tables.flatMap RuleTable.rules).map Declaration.id).Nodup ∧
        ∀ table ∈ tables, ∀ declaration ∈ table.rules,
          ∃ pattern, Pattern.Compiled.ofPattern declaration.pattern = .ok pattern := by
  have allRead : (∀ rule ∈ declarations tables,
        ∃ pattern, Pattern.Compiled.ofPattern rule.2.2.pattern = .ok pattern) ↔
      ∀ table ∈ tables, ∀ declaration ∈ table.rules,
        ∃ pattern, Pattern.Compiled.ofPattern declaration.pattern = .ok pattern := by
    simp only [(declarations_perm tables).mem_iff, List.mem_flatMap, RuleTable.entries,
      List.mem_map]
    constructor
    · intro read table present declaration declared
      exact read (table.language, table.tier, declaration)
        ⟨table, present, declaration, declared, rfl⟩
    · rintro read _ ⟨table, present, declaration, declared, rfl⟩
      exact read table present declaration declared
  rw [← allRead, ← exists_implements_iff]
  constructor
  · rintro ⟨catalog, compiled⟩
    obtain ⟨distinct, implemented⟩ := compile_eq_ok_iff.mp compiled
    exact ⟨distinct, catalog.rules, implemented⟩
  · rintro ⟨distinct, rules, implemented⟩
    exact ⟨⟨rules⟩, compile_eq_ok_iff.mpr ⟨distinct, implemented⟩⟩

section

variable {tables : List RuleTable} {catalog : Catalog}

theorem map_id_of_compile (compiled : compile tables = .ok catalog) :
    catalog.rules.map Rule.id = (declarations tables).map fun rule => rule.2.2.id :=
  map_eq_of_implements (compile_eq_ok_iff.mp compiled).2
    fun _ _ _ _ implements => implements.id_eq

/-- No two rules of a catalogue share an id. -/
theorem nodup_ids_of_compile (compiled : compile tables = .ok catalog) :
    (catalog.rules.map Rule.id).Nodup := by
  rw [map_id_of_compile compiled, (map_id_declarations_perm tables).nodup_iff]
  exact (compile_eq_ok_iff.mp compiled).1

/-- A catalogue contains the ids that its tables declare. -/
theorem contains_iff_of_compile
    (compiled : compile tables = .ok catalog)
    {id : String} :
    catalog.contains id = true ↔
      ∃ table ∈ tables, ∃ declaration ∈ table.rules, declaration.id = id := by
  rw [contains_iff, map_id_of_compile compiled, (map_id_declarations_perm tables).mem_iff]
  simp only [List.mem_map, List.mem_flatMap]
  constructor
  · rintro ⟨declaration, ⟨table, present, declared⟩, named⟩
    exact ⟨table, present, declaration, declared, named⟩
  · rintro ⟨table, present, declaration, declared, named⟩
    exact ⟨declaration, ⟨table, present, declared⟩, named⟩

/-- The rules of a language: those of its tables of the high tier in their order, then
those of its tables of the medium tier. -/
theorem rulesFor_of_compile
    (compiled : compile tables = .ok catalog)
    (language : Language) :
    ∃ high medium, catalog.rulesFor language = high ++ medium ∧
      List.Forall₂ (Rule.Implements language .high)
        (declaredFor tables language .high) high ∧
      List.Forall₂ (Rule.Implements language .medium)
        (declaredFor tables language .medium)
        medium := by
  have implemented : List.Forall₂ (fun rule => Rule.Implements rule.1 rule.2.1 rule.2.2)
      ((declarations tables).filter fun rule => rule.1 = language)
      (catalog.rulesFor language) := by
    refine List.rel_filter ?_ (compile_eq_ok_iff.mp compiled).2
    intro declared rule implements
    simp [implements.language_eq]
  rw [filter_declarations] at implemented
  let count := (declaredFor tables language .high).length
  refine ⟨(catalog.rulesFor language).take count, (catalog.rulesFor language).drop count,
    (List.take_append_drop _ _).symm, ?_, ?_⟩
  · have first := (List.forall₂_take_append _ _ _ implemented.flip).flip
    rw [List.length_map, List.forall₂_map_left_iff] at first
    exact first
  · have second := (List.forall₂_drop_append _ _ _ implemented.flip).flip
    rw [List.length_map, List.forall₂_map_left_iff] at second
    exact second

end

/-- The same tables in another order, in which those of one language and tier keep
theirs. -/
structure IsReordering (tables other : List RuleTable) : Prop where
  filter_eq : ∀ language tier,
    other.filter (fun table => table.language = language ∧ table.tier = tier) =
      tables.filter fun table => table.language = language ∧ table.tier = tier

theorem IsReordering.perm
    {tables other : List RuleTable}
    (reordered : IsReordering tables other) :
    other.Perm tables := by
  refine List.perm_iff_count.mpr fun table => ?_
  have same := congrArg (List.count table) (reordered.filter_eq table.language table.tier)
  rwa [List.count_filter (by simp), List.count_filter (by simp)] at same

/-- Tables in another order make a catalogue with the same rules for every language. -/
theorem IsReordering.exists_compile
    {tables other : List RuleTable}
    {catalog : Catalog}
    (reordered : IsReordering tables other)
    (compiled : compile tables = .ok catalog) :
    ∃ otherCatalog, compile other = .ok otherCatalog ∧
      otherCatalog.rulesFor = catalog.rulesFor := by
  obtain ⟨distinct, read⟩ := exists_compile_iff.mp ⟨catalog, compiled⟩
  obtain ⟨otherCatalog, otherCompiled⟩ : ∃ otherCatalog, compile other =
      .ok otherCatalog := by
    refine exists_compile_iff.mpr ⟨?_, fun table present =>
      read table (reordered.perm.mem_iff.mp present)⟩
    exact ((reordered.perm.flatMap_right _).map _).nodup_iff.mpr distinct
  refine ⟨otherCatalog, otherCompiled, ?_⟩
  funext language
  have sameDeclared : ∀ tier,
      declaredFor other language tier = declaredFor tables language tier := by
    intro tier
    rw [declaredFor, declaredFor, reordered.filter_eq language tier]
  obtain ⟨high, medium, rules, isHigh, isMedium⟩ := rulesFor_of_compile compiled language
  obtain ⟨otherHigh, otherMedium, otherRules, otherIsHigh, otherIsMedium⟩ :=
    rulesFor_of_compile otherCompiled language
  rw [sameDeclared] at otherIsHigh otherIsMedium
  rw [rules, otherRules,
    List.right_unique_forall₂' (Rule.Implements.unique language .high) otherIsHigh isHigh,
    List.right_unique_forall₂' (Rule.Implements.unique language .medium)
      otherIsMedium isMedium]

/-- Tables make a catalogue exactly when they repeat no id and all their patterns can be
read. For each language it lists the rules of the tables of that language, those of the
high tier first, and otherwise in the order in which they are declared; no other order
of the tables has an influence on it. When tables make no catalogue, the error is that
of the first declaration that is refused. -/
theorem compile_follows_tables (tables : List RuleTable) :
    ((∃ catalog, compile tables = .ok catalog) ↔
      ((tables.flatMap RuleTable.rules).map Declaration.id).Nodup ∧
        ∀ table ∈ tables, ∀ declaration ∈ table.rules,
          ∃ pattern, Pattern.Compiled.ofPattern declaration.pattern = .ok pattern) ∧
    (∀ catalog, compile tables = .ok catalog →
      (∀ language, ∃ high medium, catalog.rulesFor language = high ++ medium ∧
        List.Forall₂ (Rule.Implements language .high)
          (declaredFor tables language .high) high ∧
        List.Forall₂ (Rule.Implements language .medium)
          (declaredFor tables language .medium) medium) ∧
      (catalog.toList.map Rule.id).Nodup ∧
      catalog.toList = Language.all.flatMap catalog.rulesFor ∧
      (∀ id, catalog.contains id = true ↔
        ∃ table ∈ tables, ∃ declaration ∈ table.rules, declaration.id = id) ∧
      ∀ other, IsReordering tables other →
        ∃ otherCatalog, compile other = .ok otherCatalog ∧
          otherCatalog.rulesFor = catalog.rulesFor ∧
          otherCatalog.toList = catalog.toList ∧
          otherCatalog.contains = catalog.contains) ∧
    ∀ error, compile tables = .error error ↔
      ∃ before declaration after,
        (readingOrder tables).flatMap RuleTable.rules = before ++ declaration :: after ∧
        Refused (before.map Declaration.id) declaration error ∧
        ∀ front earlier rest, before = front ++ earlier :: rest →
          ∀ otherError, ¬Refused (front.map Declaration.id) earlier otherError := by
  refine ⟨exists_compile_iff,
    fun catalog compiled => ⟨rulesFor_of_compile compiled, ?_, rfl,
    fun id => contains_iff_of_compile compiled,
      fun other reordered => ?_⟩, fun error => ?_⟩
  · exact (catalog.toList_perm.map Rule.id).nodup_iff.mpr (nodup_ids_of_compile compiled)
  · obtain ⟨otherCatalog, otherCompiled, sameRules⟩ := reordered.exists_compile compiled
    have sameList : otherCatalog.toList = catalog.toList := by
      rw [toList, toList, sameRules]
    refine ⟨otherCatalog, otherCompiled, sameRules, sameList, ?_⟩
    funext id
    rw [contains, contains, sameList]
  · rw [compile_eq_error_iff, firstRefused_iff]
    simp only [List.append_nil]

/-- A pattern can be read if its characters lead to an engine. Unlike the text, its list
of characters is cheap to compute with. -/
theorem exists_ofPattern_ofList
    {chars : List Char}
    (readable : (Pattern.Engine.ofSource? (Pattern.dialectOf chars)
      (Pattern.foldMark.toList ++ chars)).isSome = true) :
    ∃ pattern, Pattern.Compiled.ofPattern (String.ofList chars) = .ok pattern := by
  obtain ⟨engine, found⟩ := Option.isSome_iff_exists.mp readable
  refine ⟨⟨Pattern.foldMark ++ String.ofList chars, engine⟩, ?_⟩
  simp only [Pattern.Compiled.ofPattern, String.toList_append,
    String.toList_ofList, found]

/-- Two tables, of which the one that is read first stands last. -/
def Sample.tables : List RuleTable :=
  [⟨.bash, .medium, [⟨"T-101", "sudo", "sudo"⟩]⟩,
    ⟨.bash, .high, [⟨"T-001", "eval", "eval"⟩]⟩]

theorem compile_follows_tables_sample :
    IsReordering Sample.tables Sample.tables.reverse ∧
      ∃ catalog otherCatalog, compile Sample.tables = .ok catalog ∧
        compile Sample.tables.reverse = .ok otherCatalog ∧
        otherCatalog.toList = catalog.toList ∧ catalog.contains "T-101" = true := by
  have reordered : IsReordering Sample.tables Sample.tables.reverse := by
    refine ⟨fun language tier => ?_⟩
    cases language <;> cases tier <;> rfl
  have readable : ∀ table ∈ Sample.tables, ∀ declaration ∈ table.rules,
      ∃ pattern, Pattern.Compiled.ofPattern declaration.pattern = .ok pattern := by
    simp only [Sample.tables, List.forall_mem_cons, List.not_mem_nil, false_implies,
      implies_true, and_true]
    and_intros <;> exact exists_ofPattern_ofList (by decide +kernel)
  obtain ⟨succeeds, holds, _⟩ := compile_follows_tables Sample.tables
  obtain ⟨catalog, compiled⟩ := succeeds.mpr ⟨by decide, readable⟩
  obtain ⟨_, _, _, contains, reorders⟩ := holds catalog compiled
  obtain ⟨otherCatalog, otherCompiled, _, sameList, _⟩ := reorders _ reordered
  refine ⟨reordered, catalog, otherCatalog, compiled, otherCompiled, sameList, ?_⟩
  exact (contains "T-101").mpr ⟨_, List.mem_cons_self, _, List.mem_cons_self, rfl⟩

end Catalog
end ScriptAudit
