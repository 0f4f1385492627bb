import ScriptAudit.Proofs.Report.RoundTrip

/-!
# Reading SARIF logs

A log is read as a list of results and a list of rules. The results are those of the
findings, one by one, and the rules are what a pass over the findings collects: every id
that is used, in increasing order, each with the first finding that has it.
-/

namespace ScriptAudit

/-! ## Values of fields -/

namespace Json

/-- The text of a string. -/
def text? : Json → Option String
  | .string value => some value
  | _ => none

/-- The value of a number that counts something. -/
def count? : Json → Option Nat
  | .int (.ofNat value) => some value
  | _ => none

/-- The items of an array. -/
def items? : Json → Option (List Json)
  | .array items => some items
  | _ => none

/-- The only item of an array. -/
def item? : Json → Option Json
  | .array [item] => some item
  | _ => none

/-- The value behind the names of fields, each in the object that the one before holds.
-/
def at? (value : Json) : List String → Option Json
  | [] => some value
  | name :: names => (value.field? name).bind fun inner => inner.at? names

/-- What a field holds that need not be there. -/
def optional? (read : α → Option β) : Option α → Option (Option β)
  | none => some none
  | some value => (read value).map some

/-- The items of an array are read one by one. -/
theorem mapM_map_eq_some
    {write : α → Json}
    {read : Json → Option β}
    {meaning : α → β}
    (reads : ∀ item, read (write item) = some (meaning item))
    (items : List α) :
    (items.map write).mapM read = some (items.map meaning) := by
  have composed : read ∘ write = fun item => pure (meaning item) := funext reads
  rw [List.mapM_map, composed]
  exact List.mapM_pure

end Json

namespace Report
namespace Sarif

/-! ## What a log says -/

/-- The part of a file that a result is about. -/
structure Region where
  startLine : Nat
  snippet : Option String

/-- A result of a log. -/
structure Result where
  ruleId : String
  level : String
  message : String
  uri : String
  region : Option Region

/-- A rule of a log. -/
structure RuleEntry where
  id : String
  name : String
  /-- The level of results that do not say otherwise. -/
  level : String

/-- The results of a log and the rules of its tool. -/
structure Contents where
  results : List Result
  rules : List RuleEntry

/-- Read a region. -/
def Region.ofJson? (json : Json) : Option Region := do
  let startLine ← (← json.at? ["startLine"]).count?
  let snippet ← Json.optional? (fun inner => do (← inner.at? ["text"]).text?)
    (json.at? ["snippet"])
  some ⟨startLine, snippet⟩

/-- Read a result, which has one location. -/
def Result.ofJson? (json : Json) : Option Result := do
  let ruleId ← (← json.at? ["ruleId"]).text?
  let level ← (← json.at? ["level"]).text?
  let message ← (← json.at? ["message", "text"]).text?
  let location ← (← json.at? ["locations"]).item?
  let uri ← (← location.at? ["physicalLocation", "artifactLocation", "uri"]).text?
  let region ← Json.optional? Region.ofJson? (location.at? ["physicalLocation", "region"])
  some ⟨ruleId, level, message, uri, region⟩

/-- Read a rule. -/
def RuleEntry.ofJson? (json : Json) : Option RuleEntry := do
  let id ← (← json.at? ["id"]).text?
  let name ← (← json.at? ["name"]).text?
  let level ← (← json.at? ["defaultConfiguration", "level"]).text?
  some ⟨id, name, level⟩

/-- Read a log, which has one run. -/
def Contents.ofJson? (json : Json) : Option Contents := do
  let run ← (← json.at? ["runs"]).item?
  let results ← (← (← run.at? ["results"]).items?).mapM Result.ofJson?
  let rules ← (← (← run.at? ["tool", "driver", "rules"]).items?).mapM RuleEntry.ofJson?
  some ⟨results, rules⟩

/-! ## Written logs are read -/

/-- The region of a finding. -/
def regionOf (finding : Finding) : Option Region :=
  finding.line.map fun line => ⟨line, finding.excerpt⟩

/-- The result of a finding. -/
def resultOf (finding : Finding) : Result :=
  ⟨ruleId finding, level finding.severity, message finding,
    uri finding.file, regionOf finding⟩

/-- The rule with an id that a finding stands for. -/
def ruleOf (id : String) (finding : Finding) : RuleEntry :=
  ⟨id, finding.description.getD "unreadable file", level finding.severity⟩

/-- What the log of a report says. -/
def contentsOf (report : Report) : Contents where
  results := report.findings.map resultOf
  rules := (rules report.findings).map fun rule => ruleOf rule.1 rule.2

theorem Result.ofJson?_resultJson (finding : Finding) :
    Result.ofJson? (resultJson finding) = some (resultOf finding) := by
  obtain ⟨file, line, description, error, severity, excerpt, id⟩ := finding
  cases line with
  | none => rfl
  | some line => cases excerpt <;> rfl

theorem RuleEntry.ofJson?_ruleJson (id : String) (finding : Finding) :
    RuleEntry.ofJson? (ruleJson id finding) = some (ruleOf id finding) := rfl

theorem Contents.ofJson?_log (report : Report) :
    Contents.ofJson? (log report) = some (contentsOf report) := by
  have results := Json.mapM_map_eq_some Result.ofJson?_resultJson report.findings
  have rules := Json.mapM_map_eq_some
    (fun rule : String × Finding => RuleEntry.ofJson?_ruleJson rule.1 rule.2)
    (Sarif.rules report.findings)
  change ((report.findings.map resultJson).mapM Result.ofJson?).bind (fun results =>
    (((Sarif.rules report.findings).map fun rule => ruleJson rule.1 rule.2).mapM
      RuleEntry.ofJson?).bind fun rules => some (⟨results, rules⟩ : Contents)) = _
  rw [results, rules]
  rfl

/-! ## Written logs are texts of JSON -/

theorem isPlain_resultJson
    {finding : Finding}
    (fits : finding.FitsWords) :
    (resultJson finding).IsPlain := by
  have region : ∀ field ∈ regionFields finding, field.2.IsPlain := by
    intro field member
    unfold regionFields at member
    split at member
    · cases member
    · rename_i line isLine
      obtain rfl := List.mem_singleton.mp member
      have startLine : Json.IsPlain (.int line) := .word line (fits line isLine)
      simp [or_imp, forall_and, Json.isPlain_object_iff, Json.IsPlain.string, startLine]
  simpa [resultJson, Json.isPlain_object_iff, Json.isPlain_array_iff, Json.IsPlain.string]
    using region

theorem isPlain_ruleJson (id : String) (finding : Finding) :
    (ruleJson id finding).IsPlain := by
  simp [ruleJson, Json.isPlain_object_iff, Json.IsPlain.string]

theorem isPlain_log
    {report : Report}
    (fits : ∀ finding ∈ report.findings, finding.FitsWords) :
    (log report).IsPlain := by
  have results : ∀ item ∈ report.findings.map resultJson, item.IsPlain := by
    intro item isItem
    obtain ⟨finding, isFinding, rfl⟩ := List.mem_map.mp isItem
    exact isPlain_resultJson (fits finding isFinding)
  have rules : ∀ item ∈ (rules report.findings).map (fun rule => ruleJson rule.1 rule.2),
      item.IsPlain := by
    intro item isItem
    obtain ⟨rule, _, rfl⟩ := List.mem_map.mp isItem
    exact isPlain_ruleJson rule.1 rule.2
  simpa [log, Json.isPlain_object_iff, Json.isPlain_array_iff, Json.IsPlain.string]
    using And.intro results rules

/-- The text of a log is read as what the log says. -/
theorem ofJson?_parse?_render
    {report : Report}
    (fits : ∀ finding ∈ report.findings, finding.FitsWords) :
    (Json.parse? (report.render .sarif)).bind Contents.ofJson? =
      some (contentsOf report) := by
  have parsed : Json.parse? (report.render .sarif) = some (log report) :=
    (isPlain_log fits).parse?_pretty
  rw [parsed, Option.bind_some, Contents.ofJson?_log]

/-! ## The rules of a log -/

variable {seen : List Finding} {collected : List (String × Finding)} {finding : Finding}

/-- Rules in increasing order of their ids, no id twice. -/
def IsIndex (collected : List (String × Finding)) : Prop :=
  collected.Pairwise fun first second => first.1 < second.1

/-- An id below the first one is not used. -/
theorem IsIndex.notMem_of_lt
    {id lower : String}
    {first : Finding}
    {rest : List (String × Finding)}
    (isIndex : IsIndex ((id, first) :: rest))
    (below : lower < id) :
    lower ∉ ((id, first) :: rest).map Prod.fst := by
  intro member
  rcases List.mem_cons.mp member with rfl | later
  · exact String.lt_irrefl _ below
  · obtain ⟨entry, isEntry, rfl⟩ := List.mem_map.mp later
    exact String.lt_asymm below ((List.pairwise_cons.mp isIndex).1 entry isEntry)

/-- A finding is added if its id is not used yet, and nothing else changes. -/
theorem mem_insertRule_iff
    {entry : String × Finding}
    (isIndex : IsIndex collected) :
    entry ∈ insertRule collected finding ↔
      entry ∈ collected ∨
        entry = (ruleId finding, finding) ∧ ruleId finding ∉ collected.map Prod.fst := by
  fun_induction insertRule collected finding with
  | case1 => simp
  | case2 id first rest below =>
      have unused := isIndex.notMem_of_lt below
      rw [List.mem_cons, or_comm, and_iff_left unused]
  | case3 => simp
  | case4 id first rest _ different inductionHypothesis =>
      rw [List.mem_cons, inductionHypothesis (List.pairwise_cons.mp isIndex).2,
        List.mem_cons, or_assoc, List.map_cons, List.mem_cons, not_or,
        and_iff_right different]

/-- Adding a finding keeps the order. -/
theorem IsIndex.insertRule
    (isIndex : IsIndex collected)
    (finding : Finding) :
    IsIndex (insertRule collected finding) := by
  fun_induction Sarif.insertRule collected finding with
  | case1 => exact List.pairwise_singleton _ _
  | case2 id first rest below =>
      apply List.pairwise_cons.mpr
      refine ⟨?_, isIndex⟩
      intro entry member
      rcases List.mem_cons.mp member with rfl | later
      · exact below
      · exact String.lt_trans below ((List.pairwise_cons.mp isIndex).1 entry later)
  | case3 => exact isIndex
  | case4 id first rest notBelow different inductionHypothesis =>
      obtain ⟨least, others⟩ := List.pairwise_cons.mp isIndex
      have above : id < ruleId finding :=
        Std.lt_of_le_of_ne (String.not_lt.mp notBelow) (Ne.symm different)
      apply List.pairwise_cons.mpr
      refine ⟨?_, inductionHypothesis others⟩
      intro entry member
      rcases (mem_insertRule_iff others).mp member with present | ⟨rfl, _⟩
      · exact least entry present
      · exact above

/-- Rules in order that hold every id of some findings together with the first of them
that has it. -/
structure IndexesFirst
    (seen : List Finding)
    (collected : List (String × Finding)) : Prop where
  isIndex : IsIndex collected
  mem_iff : ∀ id finding, (id, finding) ∈ collected ↔
    seen.find? (fun candidate => ruleId candidate = id) = some finding

theorem IndexesFirst.mem_ids_iff
    (indexes : IndexesFirst seen collected)
    {id : String} :
    id ∈ collected.map Prod.fst ↔ ∃ finding ∈ seen, ruleId finding = id := by
  constructor
  · intro member
    obtain ⟨⟨_, finding⟩, isEntry, rfl⟩ := List.mem_map.mp member
    have found := (indexes.mem_iff _ finding).mp isEntry
    exact ⟨finding, List.mem_of_find?_eq_some found, by simpa using List.find?_some found⟩
  · rintro ⟨finding, member, named⟩
    obtain ⟨first, found⟩ : ∃ first,
        seen.find? (fun candidate => ruleId candidate = id) = some first :=
      Option.isSome_iff_exists.mp
        (List.find?_isSome.mpr ⟨finding, member, decide_eq_true named⟩)
    exact List.mem_map.mpr ⟨(id, first), (indexes.mem_iff id first).mpr found, rfl⟩

/-- One more finding is indexed by adding it. -/
theorem IndexesFirst.insertRule
    (indexes : IndexesFirst seen collected)
    (finding : Finding) :
    IndexesFirst (seen ++ [finding]) (insertRule collected finding) where
  isIndex := indexes.isIndex.insertRule finding
  mem_iff := by
    intro id first
    rw [mem_insertRule_iff indexes.isIndex, indexes.mem_iff, List.find?_append,
      Option.or_eq_some_iff, Prod.mk.injEq, indexes.mem_ids_iff]
    apply or_congr_right
    constructor
    · rintro ⟨⟨rfl, rfl⟩, unused⟩
      simpa using unused
    · rintro ⟨unused, isLast⟩
      obtain ⟨named, same⟩ : ruleId finding = id ∧ finding = first :=
        by simpa using isLast
      subst same named
      exact ⟨⟨rfl, rfl⟩, by simpa using unused⟩

/-- The rules of a log index all findings. -/
theorem rules_indexesFirst (findings : List Finding) :
    IndexesFirst findings (rules findings) := by
  induction findings using List.reverseRecOn with
  | nil => exact ⟨List.Pairwise.nil, fun id finding => by simp [rules]⟩
  | append_singleton findings finding inductionHypothesis =>
      rw [rules, List.foldl_append]
      exact inductionHypothesis.insertRule finding

/-! ## What results and rules say -/

/-- A result says what a finding says. -/
structure Result.Describes (result : Result) (finding : Finding) : Prop where
  ruleId_eq : result.ruleId = finding.ruleId.getD readErrorId
  level_eq : result.level = Sarif.level finding.severity
  /-- The error comes first. -/
  message_of_error : ∀ error, finding.error = some error → result.message = error
  message_of_description : finding.error = none →
    ∀ description, finding.description = some description → result.message = description
  message_of_none : finding.error = none →
  finding.description = none → result.message = ""
  uri_eq : result.uri.toList =
    finding.file.toList.map fun char => if char = '\\' then '/' else char
  /-- There is a region exactly if there is a line. -/
  region_isSome : result.region.isSome = finding.line.isSome
  region_eq : ∀ region, result.region = some region →
    finding.line = some region.startLine ∧ region.snippet = finding.excerpt

theorem resultOf_describes (finding : Finding) :
    (resultOf finding).Describes finding where
  ruleId_eq := rfl
  level_eq := rfl
  message_of_error := by
    intro error isError
    simp [resultOf, message, isError]
  message_of_description := by
    intro noError description isDescription
    simp [resultOf, message, noError, isDescription]
  message_of_none := by
    intro noError noDescription
    simp [resultOf, message, noError, noDescription]
  uri_eq := String.toList_ofList
  region_isSome := by simp [resultOf, regionOf]
  region_eq := by
    intro region isRegion
    obtain ⟨line, isLine, rfl⟩ := Option.map_eq_some_iff.mp isRegion
    exact ⟨isLine, rfl⟩

/-- A rule takes its name and level from the first of some findings that has its id. -/
def RuleEntry.StandsFor (rule : RuleEntry) (findings : List Finding) : Prop :=
  ∃ before first after, findings = before ++ first :: after ∧
    (∀ earlier ∈ before, earlier.ruleId.getD readErrorId ≠ rule.id) ∧
    first.ruleId.getD readErrorId = rule.id ∧
    rule.name = first.description.getD "unreadable file" ∧
    rule.level = Sarif.level first.severity

theorem standsFor_of_mem_rules
    {findings : List Finding}
    {rule : String × Finding}
    (member : rule ∈ rules findings) :
    (ruleOf rule.1 rule.2).StandsFor findings := by
  obtain ⟨id, first⟩ := rule
  have found := ((rules_indexesFirst findings).mem_iff id first).mp member
  obtain ⟨named, before, after, split, different⟩ :=
    List.find?_eq_some_iff_append.mp found
  refine ⟨before, first, after, split, ?_, of_decide_eq_true named, rfl, rfl⟩
  intro earlier isEarlier
  have isOther : ruleId earlier ≠ id := by simpa using different earlier isEarlier
  exact isOther

end Sarif
end Report
end ScriptAudit
