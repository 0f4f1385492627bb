import ScriptAudit.Proofs.Datum.Records
import ScriptAudit.Proofs.Json.RoundTrip
import ScriptAudit.Report.Format

/-!
# Reading written reports

A report is read back from its JSON text as it was, except for the rules of its
findings, which are not written. Written once more, it gives the same text.
-/

namespace ScriptAudit

/-! ## Decoding written values -/

namespace Datum

@[simp] theorem toText_string (value : String) :
    toText (Json.string value).toDatum = .ok value := rfl

@[simp] theorem toBool_bool (value : Bool) :
    toBool (Json.bool value).toDatum = .ok value := rfl

theorem toCount_word
    {value : Nat}
    (isWord : value < Number.wordRange) :
    toCount (Json.int value).toDatum = .ok value :=
  if_pos isWord

@[simp] theorem toOption_string (value : String) :
    toOption toText (Json.string value).toDatum = .ok (some value) := rfl

theorem toOption_word
    {value : Nat}
    (isWord : value < Number.wordRange) :
    toOption toCount (Json.int value).toDatum = .ok (some value) := by
  change (toCount (Json.int value).toDatum).map some = .ok (some value)
  rw [toCount_word isWord]
  rfl

@[simp] theorem toVariant_severity (severity : Severity) :
    toVariant Severity.variants (Json.string severity.name).toDatum = .ok severity := by
  cases severity <;> rfl

@[simp] theorem toVariant_scanType :
    toVariant Report.scanTypes (Json.string "static").toDatum = .ok () := rfl

end Datum

/-- A text that is only written when there is one. -/
theorem Gives.optionalText
    {given : List (String × Datum)}
    {fields : List (String × Json)}
    (gives : Gives given fields)
    {name : String}
    {content : Option String}
    (written : ∀ value, (name, value) ∈ fields ↔ ∃ text ∈ content, value = .string text) :
    withDefault given name (Datum.toOption Datum.toText) none = .ok content :=
  gives.withDefault_eq written fun text _ => Datum.toOption_string text

/-! ## Findings -/

namespace Finding

/-- A finding as it can be read back, without the rule that has caused it. -/
def withoutRule (finding : Finding) : Finding :=
  { finding with ruleId := none }

/-- The number of the line is a machine word. -/
def FitsWords (finding : Finding) : Prop :=
  ∀ line ∈ finding.line, line < Number.wordRange

@[simp] theorem mem_optionalField_iff
    {name : String}
    {write : α → Json}
    {content : Option α}
    {entry : String × Json} :
    entry ∈ optionalField name write content ↔
      ∃ item ∈ content, (name, write item) = entry := by
  cases content <;> simp [optionalField, eq_comm]

theorem optionalField_names_sublist
    (name : String)
    (write : α → Json)
    (content : Option α) :
    ((optionalField name write content).map Prod.fst).Sublist [name] := by
  cases content <;> simp [optionalField]

/-- The fields of a written finding. -/
def writtenFields (finding : Finding) : List (String × Json) :=
  [("file", .string finding.file)] ++
    optionalField "line" (fun line : Nat => .int line) finding.line ++
    optionalField "pattern" .string finding.description ++
    optionalField "error" .string finding.error ++
    [("severity", .string finding.severity.name)] ++
    optionalField "content" .string finding.excerpt

theorem toJson_eq (finding : Finding) :
    finding.toJson = .object finding.writtenFields := rfl

theorem writtenFields_distinct (finding : Finding) :
    (finding.writtenFields.map Prod.fst).Nodup := by
  have names : (finding.writtenFields.map Prod.fst).Sublist
      (["file"] ++ ["line"] ++ ["pattern"] ++ ["error"] ++
        ["severity"] ++ ["content"]) := by
    simp only [writtenFields, List.map_append]
    exact ((((List.Sublist.refl _).append (optionalField_names_sublist _ _ _)).append
      (optionalField_names_sublist _ _ _)).append
        (optionalField_names_sublist _ _ _)).append
      (List.Sublist.refl _) |>.append (optionalField_names_sublist _ _ _)
  exact names.nodup (by decide)

theorem accepts_writtenFields
    {finding : Finding}
    (fits : finding.FitsWords) :
    shape.Accepts finding.writtenFields := by
  have line : ∀ line, finding.line = some line →
      Datum.toOption Datum.toCount (Json.int line).toDatum = .ok (some line) :=
    fun line isLine => Datum.toOption_word (fits line isLine)
  simp +contextual [RecordShape.Accepts, shape, Field.of, writtenFields, line, Except.map]

/-- A written finding is read back without its rule. -/
theorem ofDatum_toJson
    {finding : Finding}
    (fits : finding.FitsWords) :
    ofDatum .json finding.toJson.toDatum = .ok finding.withoutRule := by
  obtain ⟨given, opened, gives⟩ :=
    (accepts_writtenFields fits).exists_gives rfl finding.writtenFields_distinct
  have file : required given "file" Datum.toText = .ok finding.file :=
    gives.required_eq (show ("file", .string finding.file) ∈ finding.writtenFields by
      simp [writtenFields]) _
  have line : withDefault given "line" (Datum.toOption Datum.toCount) none =
      .ok finding.line :=
    gives.withDefault_eq (show ∀ value, ("line", value) ∈ finding.writtenFields ↔
        ∃ line ∈ finding.line, value = .int line by simp [writtenFields, eq_comm])
      fun line isLine => Datum.toOption_word (fits line isLine)
  have description : withDefault given "pattern" (Datum.toOption Datum.toText) none =
      .ok finding.description :=
    gives.optionalText (by simp [writtenFields, eq_comm])
  have error : withDefault given "error" (Datum.toOption Datum.toText) none =
      .ok finding.error :=
    gives.optionalText (by simp [writtenFields, eq_comm])
  have severity : required given "severity" (Datum.toVariant Severity.variants) =
      .ok finding.severity := by
    rw [gives.required_eq (show ("severity", .string finding.severity.name) ∈
      finding.writtenFields by simp [writtenFields])]
    exact Datum.toVariant_severity finding.severity
  have excerpt : withDefault given "content" (Datum.toOption Datum.toText) none =
      .ok finding.excerpt :=
    gives.optionalText (by simp [writtenFields, eq_comm])
  rw [ofDatum, toJson_eq, opened]
  simp only [bind, Except.bind, file, line, description, error, severity,
    excerpt, withoutRule]

theorem isPlain_toJson
    {finding : Finding}
    (fits : finding.FitsWords) :
    finding.toJson.IsPlain := by
  have line : ∀ line, finding.line = some line → Json.IsPlain (.int line) :=
    fun line isLine => .word line (fits line isLine)
  rw [toJson_eq]
  refine .object _ ?_
  simpa [writtenFields, or_imp, forall_and, Json.IsPlain.string] using line

end Finding

/-! ## Summaries -/

namespace Summary

/-- The numbers of findings are machine words. -/
structure FitsWords (summary : Summary) : Prop where
  high : summary.high < Number.wordRange
  medium : summary.medium < Number.wordRange
  low : summary.low < Number.wordRange

/-- The fields of a written summary. -/
def writtenFields (summary : Summary) : List (String × Json) :=
  [("high", .int summary.high), ("medium", .int summary.medium),
    ("low", .int summary.low)]

theorem toJson_eq (summary : Summary) :
    summary.toJson = .object summary.writtenFields := rfl

theorem accepts_writtenFields
    {summary : Summary}
    (fits : summary.FitsWords) :
    shape.Accepts summary.writtenFields := by
  simp [RecordShape.Accepts, shape, Field.of, writtenFields,
    Datum.toCount_word fits.high, Datum.toCount_word fits.medium,
    Datum.toCount_word fits.low, Except.map]

/-- A written summary is read back. -/
theorem ofDatum_toJson
    {summary : Summary}
    (fits : summary.FitsWords) :
    ofDatum .json summary.toJson.toDatum = .ok summary := by
  obtain ⟨given, opened, gives⟩ := (accepts_writtenFields fits).exists_gives rfl (by
    simp [writtenFields])
  have count : ∀ {name value}, value < Number.wordRange →
      (name, Json.int (value : Nat)) ∈ summary.writtenFields →
      required given name Datum.toCount = .ok value := by
    intro name value isWord isField
    rw [gives.required_eq isField]
    exact Datum.toCount_word isWord
  rw [ofDatum, toJson_eq, opened]
  simp only [bind, Except.bind,
    count fits.high (show ("high", _) ∈ _ by simp [writtenFields]),
    count fits.medium (show ("medium", _) ∈ _ by simp [writtenFields]),
    count fits.low (show ("low", _) ∈ _ by simp [writtenFields])]

theorem isPlain_toJson
    {summary : Summary}
    (fits : summary.FitsWords) :
    summary.toJson.IsPlain := by
  rw [toJson_eq]
  refine .object _ ?_
  simp [writtenFields, Json.IsPlain.word _ fits.high, Json.IsPlain.word _ fits.medium,
    Json.IsPlain.word _ fits.low]

end Summary

/-! ## Reports -/

namespace Report

/-- A report as it can be read back, without the rules of its findings. -/
def withoutRules (report : Report) : Report :=
  { report with findings := report.findings.map Finding.withoutRule }

/-- All numbers are machine words. -/
structure FitsWords (report : Report) : Prop where
  filesScanned : report.filesScanned < Number.wordRange
  findings : ∀ finding ∈ report.findings, finding.FitsWords
  summary : report.summary.FitsWords

/-- The fields of a written report. -/
def writtenFields (report : Report) : List (String × Json) :=
  [("skill_path", .string report.skillPath),
    ("scan_type", .string "static"),
    ("files_scanned", .int report.filesScanned),
    ("findings", .array (report.findings.map Finding.toJson)),
    ("summary", report.summary.toJson)] ++
    Finding.optionalField "note" .string report.note ++
    [("passed", .bool report.passed)]

theorem toJson_eq (report : Report) : report.toJson = .object report.writtenFields := rfl

theorem writtenFields_distinct (report : Report) :
    (report.writtenFields.map Prod.fst).Nodup := by
  have names : (report.writtenFields.map Prod.fst).Sublist
      (["skill_path", "scan_type", "files_scanned", "findings", "summary"] ++ ["note"] ++
        ["passed"]) := by
    simp only [writtenFields, List.map_append]
    exact ((List.Sublist.refl _).append
      (Finding.optionalField_names_sublist _ _ _)).append (List.Sublist.refl _)
  exact names.nodup (by decide)

/-- Written findings are read back one by one. -/
theorem toList_findings
    {findings : List Finding}
    (fits : ∀ finding ∈ findings, finding.FitsWords) :
    Datum.toList (Finding.ofDatum .json)
      (Json.array (findings.map Finding.toJson)).toDatum =
      .ok (findings.map Finding.withoutRule) := by
  rw [Json.toDatum, Json.toData_eq_map, Datum.toList]
  induction findings with
  | nil => rfl
  | cons finding findings inductionHypothesis =>
      rw [List.map_cons, List.map_cons, List.mapM_cons, Finding.ofDatum_toJson
        (fits finding List.mem_cons_self), inductionHypothesis fun other isOther =>
          fits other (List.mem_cons_of_mem finding isOther)]
      rfl

theorem accepts_writtenFields
    {report : Report}
    (fits : report.FitsWords) :
    (shape .json).Accepts report.writtenFields := by
  simp [RecordShape.Accepts, shape, Field.of, writtenFields, Except.map,
    Datum.toCount_word fits.filesScanned, toList_findings fits.findings,
    Summary.ofDatum_toJson fits.summary]

/-- A written report is read back without the rules of its findings. -/
theorem ofDatum_toJson
    {report : Report}
    (fits : report.FitsWords) :
    ofDatum .json report.toJson.toDatum = .ok report.withoutRules := by
  obtain ⟨given, opened, gives⟩ :=
    (accepts_writtenFields fits).exists_gives rfl report.writtenFields_distinct
  have skillPath : required given "skill_path" Datum.toText = .ok report.skillPath :=
    gives.required_eq (show ("skill_path", .string report.skillPath) ∈
      report.writtenFields by
      simp [writtenFields]) _
  have filesScanned : required given "files_scanned" Datum.toCount =
      .ok report.filesScanned := by
    rw [gives.required_eq (show ("files_scanned", .int report.filesScanned) ∈
      report.writtenFields by simp [writtenFields])]
    exact Datum.toCount_word fits.filesScanned
  have findings : required given "findings" (Datum.toList (Finding.ofDatum .json)) =
      .ok (report.findings.map Finding.withoutRule) := by
    rw [gives.required_eq (show ("findings",
      .array (report.findings.map Finding.toJson)) ∈
      report.writtenFields by simp [writtenFields])]
    exact toList_findings fits.findings
  have summary : required given "summary" (Summary.ofDatum .json) =
      .ok report.summary := by
    rw [gives.required_eq (show ("summary", report.summary.toJson) ∈
        report.writtenFields by
      simp [writtenFields])]
    exact Summary.ofDatum_toJson fits.summary
  have note : withDefault given "note" (Datum.toOption Datum.toText) none =
      .ok report.note :=
    gives.optionalText (by simp [writtenFields, eq_comm])
  have passed : required given "passed" Datum.toBool = .ok report.passed :=
    gives.required_eq (show ("passed", .bool report.passed) ∈ report.writtenFields by
      simp [writtenFields]) _
  rw [ofDatum, toJson_eq, opened]
  simp only [bind, Except.bind, skillPath, filesScanned, findings, summary, note, passed,
    withoutRules]

/-- A report is written in the same way without the rules of its findings. -/
theorem toJson_withoutRules (report : Report) :
    report.withoutRules.toJson = report.toJson := by
  have findings : (report.findings.map Finding.withoutRule).map Finding.toJson =
      report.findings.map Finding.toJson := by
    rw [List.map_map]
    rfl
  simp only [toJson, withoutRules, findings]

theorem isPlain_toJson
    {report : Report}
    (fits : report.FitsWords) :
    report.toJson.IsPlain := by
  have findings : Json.IsPlain (.array (report.findings.map Finding.toJson)) := by
    refine .array _ fun item isItem => ?_
    obtain ⟨finding, isFinding, rfl⟩ := List.mem_map.mp isItem
    exact Finding.isPlain_toJson (fits.findings finding isFinding)
  rw [toJson_eq]
  refine .object _ ?_
  simp [writtenFields, or_imp, forall_and, Json.IsPlain.string, Json.IsPlain.bool,
    Json.IsPlain.word _ fits.filesScanned, findings, Summary.isPlain_toJson fits.summary]

/-- The JSON text of a report is read back as the report without the rules of its
findings, and this one is written with the same text. -/
theorem json_round_trip
    (report : Report)
    (fits : report.FitsWords) :
    (Json.parse? (report.render .json)).map (fun json => ofDatum .json json.toDatum) =
        some (.ok report.withoutRules) ∧
      report.withoutRules.render .json = report.render .json := by
  constructor
  · rw [render, (isPlain_toJson fits).parse?_pretty, Option.map_some, ofDatum_toJson fits]
  · rw [render, render, toJson_withoutRules]

/-- A report with quotes, backslashes and control characters in its texts, with the
largest number, and with findings that lack different fields. -/
def Sample.awkward : Report where
  skillPath := "a \"quoted\" \\ path\u0000\u001f\u007f\u2028"
  filesScanned := 18446744073709551615
  findings :=
    [.matched "scripts/é.sh" 10 "SH-102" "sudo\tusage" .medium ['"', '\n',
      '\x08', '\x0c', '𝕊'], .unreadable "scripts/b\r.sh" "",
      ⟨"", none, none, none, .high, none, some "SH-001"⟩]
  summary := ⟨1, 1, 1⟩
  note := some "\\u0041"
  passed := true

theorem json_round_trip_awkward :
    Sample.awkward.FitsWords ∧
      (Json.parse? (Sample.awkward.render .json)).map
        (fun json => ofDatum .json json.toDatum) =
        some (.ok Sample.awkward.withoutRules) ∧
      Sample.awkward.withoutRules.render .json = Sample.awkward.render .json := by
  have fits : Sample.awkward.FitsWords := by
    refine ⟨by decide, ?_, by decide, by decide, by decide⟩
    simp [Sample.awkward, Finding.FitsWords, Finding.matched, Finding.unreadable]
    decide
  exact ⟨fits, json_round_trip Sample.awkward fits⟩

end Report
end ScriptAudit
