import ScriptAudit.Proofs.Audit.Failure
import ScriptAudit.Proofs.Toml.Data
import ScriptAudit.Proofs.Toml.DistinctKeys
import ScriptAudit.Proofs.Toml.Reordering

/-!
# The schema of configurations

A configuration is decoded section by section, and its directory of scripts is checked
in the end. A document whose sections are tables is accepted exactly when it has no keys
but those of the schema, their values have the types of the schema, and its directory of
scripts stays inside of the skill. Then it configures what it gives, whatever order its
keys are in.
-/

namespace ScriptAudit

/-! ## The schema -/

namespace Config

/-- A document gives a value for a key of the section with a heading. -/
def Assigns
    (fields : List (String × Toml))
    (heading key : String)
    (value : Toml) : Prop :=
  ∃ entries, (heading, .table entries) ∈ fields ∧ (key, value) ∈ entries

/-- A section has no keys but one, whose value is of some type. -/
def HasOnly
    (fields : List (String × Toml))
    (heading key : String)
    (write : α → Toml) : Prop :=
  ∀ name value, Assigns fields heading name value → name = key ∧
    ∃ item, value = write item

/-- What a document settles on for a key of a section, which may be left out. -/
def Settles
    (fields : List (String × Toml))
    (heading key : String)
    (write : α → Toml)
    (default item : α) : Prop :=
  Assigns fields heading key (write item) ∨
    (∀ value, ¬Assigns fields heading key value) ∧ item = default

/-- An array of texts. -/
def writeTexts (texts : List String) : Toml :=
  .array (texts.map .string)

/-- A document whose sections have the keys of the schema only, with values of their
types. -/
structure FollowsSchema (fields : List (String × Toml)) : Prop where
  sections : ∀ field ∈ fields, field.1 = "scan" ∨ field.1 = "rules"
  scan : HasOnly fields "scan" "scripts_dir" Toml.string
  rules : HasOnly fields "rules" "disabled" writeTexts

/-- A configuration is what a document settles on. -/
structure Describes (fields : List (String × Toml)) (config : Config) : Prop where
  scriptsDir : Settles fields "scan" "scripts_dir" Toml.string "scripts" config.scriptsDir
  disabled : Settles fields "rules" "disabled" writeTexts [] config.disabled

/-- The sections of a document are tables. -/
def HasTables (fields : List (String × Toml)) : Prop :=
  ∀ name value, (name, value) ∈ fields → name = "scan" ∨ name = "rules" →
    ∃ entries, value = .table entries

/-! ## Decoding sections -/

/-- A table has no key but one, and settles on something for it. -/
def IsSection
    (entries : List (String × Toml))
    (key : String)
    (write : α → Toml)
    (default item : α) : Prop :=
  (∀ entry ∈ entries, entry.1 = key ∧ ∃ other, entry.2 = write other) ∧
    ((key, write item) ∈ entries ∨ (∀ value, (key, value) ∉ entries) ∧ item = default)

/-- A section with one key is decoded if there is no other key in it and the value has
the right type. -/
theorem section_eq_ok_iff
    {recordName key : String}
    {decode : Datum → Decoded α}
    {write : α → Toml}
    {default result : α}
    {format : DataFormat}
    {entries : List (String × Toml)}
    (decodes : ∀ {value item}, decode (Toml.toDatum value) =
      .ok item ↔ value = write item)
    (distinct : (entries.map Prod.fst).Nodup) :
    (do let given ← RecordShape.fieldsOf ⟨recordName, [.of key true decode], true⟩ format
          (Toml.table entries).toDatum
        withDefault given key decode default) = .ok result ↔
      IsSection entries key write default result := by
  have admits : ∀ entry : String × Toml,
      RecordShape.Admits ⟨recordName, [.of key true decode], true⟩
        (entry.1, entry.2.toDatum) ↔ entry.1 = key ∧ ∃ item, entry.2 = write item := by
    intro entry
    by_cases isKey : entry.1 = key
    · simp [RecordShape.Admits, isKey, Field.check_of_eq_ok_iff, decodes]
    · simp [RecordShape.Admits, isKey, Ne.symm isKey]
  have isClosed :
      RecordShape.closed ⟨recordName, [.of key true decode], true⟩ = true := rfl
  rw [Toml.toDatum, bind_eq_ok_iff, IsSection]
  simp only [RecordShape.fieldsOf_map_eq_ok_iff isClosed (by simp [Field.of]), and_assoc,
    exists_and_left, exists_eq_left']
  refine and_congr ?_ ?_
  · simp only [Toml.fieldData_eq_map, List.forall_mem_map, admits]
  · rw [Toml.withDefault_fieldData_eq_ok_iff distinct]
    simp only [decodes, exists_eq_right]

theorem scanOfDatum_eq_ok_iff
    {format : DataFormat}
    {entries : List (String × Toml)}
    {scriptsDir : String}
    (distinct : (entries.map Prod.fst).Nodup) :
    scanOfDatum format (Toml.table entries).toDatum = .ok scriptsDir ↔
      IsSection entries "scripts_dir" Toml.string "scripts" scriptsDir :=
  section_eq_ok_iff Toml.toText_toDatum_eq_ok_iff distinct

theorem rulesOfDatum_eq_ok_iff
    {format : DataFormat}
    {entries : List (String × Toml)}
    {disabled : List String}
    (distinct : (entries.map Prod.fst).Nodup) :
    rulesOfDatum format (Toml.table entries).toDatum = .ok disabled ↔
      IsSection entries "disabled" writeTexts [] disabled :=
  section_eq_ok_iff Toml.toList_toText_toDatum_eq_ok_iff distinct

variable {fields : List (String × Toml)} {heading key name : String}

/-- Below a heading that stands once, what is assigned is what its table gives. -/
theorem assigns_iff
    {entries : List (String × Toml)}
    {value : Toml}
    (distinct : (fields.map Prod.fst).Nodup)
    (isField : (heading, .table entries) ∈ fields) :
    Assigns fields heading name value ↔ (name, value) ∈ entries := by
  constructor
  · rintro ⟨others, isOther, given⟩
    have same := List.inj_on_of_nodup_map distinct isOther isField rfl
    rwa [Toml.table.inj (Prod.mk.inj same).2] at given
  · exact fun given => ⟨entries, isField, given⟩

/-- Of a document, a section is decoded as its table is, or to the default without it.
-/
theorem decodes_section_iff
    (decode : Datum → Decoded α)
    {write : α → Toml}
    {default item : α}
    (decodes : ∀ {entries item}, (entries.map Prod.fst).Nodup →
      (decode (Toml.table entries).toDatum = .ok item ↔
        IsSection entries key write default item))
    (distinct : Toml.HasDistinctKeys (.table fields))
    (areTables : ∀ value, (heading, value) ∈ fields → ∃ entries, value = .table entries) :
    ((∀ value, (heading, value) ∈ fields → ∃ other, decode value.toDatum = .ok other) ∧
        withDefault (Toml.fieldData fields) heading decode default = .ok item) ↔
      HasOnly fields heading key write ∧
      Settles fields heading key write default item := by
  obtain ⟨namesDistinct, inner⟩ := Toml.hasDistinctKeys_table_iff.mp distinct
  rw [Toml.withDefault_fieldData_eq_ok_iff namesDistinct]
  by_cases isGiven : ∃ value, (heading, value) ∈ fields
  · obtain ⟨value, isField⟩ := isGiven
    obtain ⟨entries, rfl⟩ := areTables value isField
    have entriesDistinct := (Toml.hasDistinctKeys_table_iff.mp (inner _ isField)).1
    have unique : ∀ value, (heading, value) ∈ fields ↔ value = .table entries := by
      intro value
      constructor
      · intro isOther
        exact (Prod.mk.inj (List.inj_on_of_nodup_map namesDistinct isOther isField rfl)).2
      · rintro rfl
        exact isField
    simp only [HasOnly, Settles, assigns_iff namesDistinct isField, unique, forall_eq,
      exists_eq_left, decodes entriesDistinct, IsSection, false_and, or_false]
    constructor
    · rintro ⟨_, onlyKey, selected⟩
      exact ⟨fun name value given => onlyKey (name, value) given, selected⟩
    · rintro ⟨onlyKey, selected⟩
      have onlyEntry : ∀ entry ∈ entries, entry.1 = key ∧
          ∃ other, entry.2 = write other :=
        fun entry given => onlyKey entry.1 entry.2 given
      exact ⟨⟨item, onlyEntry, selected⟩, onlyEntry, selected⟩
  · have absent : ∀ value, (heading, value) ∉ fields := fun value isField =>
      isGiven ⟨value, isField⟩
    have unassigned : ∀ name value, ¬Assigns fields heading name value := by
      rintro name value ⟨entries, isField, _⟩
      exact absent _ isField
    simp [HasOnly, Settles, absent, unassigned]

/-! ## Decoding documents -/

variable {config : Config}

theorem admits_shape_iff {format : DataFormat} {value : Toml} :
    (shape format).Admits (name, value.toDatum) ↔
      (name = "scan" ∨ name = "rules") ∧
        (name = "scan" → ∃ scriptsDir,
          scanOfDatum format value.toDatum = .ok scriptsDir) ∧
        (name = "rules" → ∃ disabled,
          rulesOfDatum format value.toDatum = .ok disabled) := by
  by_cases isScan : name = "scan"
  · subst isScan
    simp [RecordShape.Admits, shape, Field.check_of_eq_ok_iff]
  · by_cases isRules : name = "rules"
    · subst isRules
      simp [RecordShape.Admits, shape, Field.check_of_eq_ok_iff]
    · simp [RecordShape.Admits, shape, isScan, isRules, Ne.symm isScan, Ne.symm isRules]

/-- A document is decoded to what it settles on if it follows the schema. -/
theorem ofDatum_eq_ok_iff
    {format : DataFormat}
    (distinct : Toml.HasDistinctKeys (.table fields))
    (hasTables : HasTables fields) :
    ofDatum format (Toml.table fields).toDatum = .ok config ↔
      FollowsSchema fields ∧ Describes fields config := by
  have isClosed : (shape format).closed = true := rfl
  have areOptional : ∀ field ∈ (shape format).fields, field.optional = true := by
    simp [shape, Field.of]
  have scan : _ ↔ HasOnly fields "scan" "scripts_dir" Toml.string ∧
      Settles fields "scan" "scripts_dir" Toml.string "scripts" config.scriptsDir :=
    decodes_section_iff (scanOfDatum format) scanOfDatum_eq_ok_iff distinct
      fun value isField => hasTables "scan" value isField (.inl rfl)
  have rules : _ ↔ HasOnly fields "rules" "disabled" writeTexts ∧
      Settles fields "rules" "disabled" writeTexts [] config.disabled :=
    decodes_section_iff (rulesOfDatum format) rulesOfDatum_eq_ok_iff distinct
      fun value isField => hasTables "rules" value isField (.inr rfl)
  rw [ofDatum, Toml.toDatum]
  simp only [bind_eq_ok_iff, RecordShape.fieldsOf_map_eq_ok_iff isClosed areOptional,
    Except.ok.injEq]
  constructor
  · rintro ⟨_, ⟨admitted, rfl⟩, scriptsDir, scanned, disabled, ruled, rfl⟩
    simp only [Toml.fieldData_eq_map, List.forall_mem_map, admits_shape_iff] at admitted
    obtain ⟨scanOnly, scanSettles⟩ := scan.mp
      ⟨fun value isField => (admitted _ isField).2.1 rfl, scanned⟩
    obtain ⟨rulesOnly, rulesSettle⟩ := rules.mp
      ⟨fun value isField => (admitted _ isField).2.2 rfl, ruled⟩
    exact ⟨⟨fun field isField => (admitted field isField).1, scanOnly, rulesOnly⟩,
      scanSettles, rulesSettle⟩
  · rintro ⟨follows, describes⟩
    obtain ⟨scanDecoded, scanned⟩ := scan.mpr ⟨follows.scan, describes.scriptsDir⟩
    obtain ⟨rulesDecoded, ruled⟩ := rules.mpr ⟨follows.rules, describes.disabled⟩
    refine ⟨_, ⟨?_, rfl⟩, _, scanned, _, ruled, rfl⟩
    simp only [Toml.fieldData_eq_map, List.forall_mem_map, admits_shape_iff]
    rintro ⟨name, value⟩ isField
    refine ⟨follows.sections _ isField, ?_, ?_⟩
    · rintro rfl
      exact scanDecoded value isField
    · rintro rfl
      exact rulesDecoded value isField

/-- A document settles on something for the only key of a section. -/
theorem HasOnly.exists_settles
    {write : α → Toml}
    (hasOnly : HasOnly fields heading key write)
    (default : α) :
    ∃ item, Settles fields heading key write default item := by
  by_cases isGiven : ∃ value, Assigns fields heading key value
  · obtain ⟨value, given⟩ := isGiven
    obtain ⟨_, item, rfl⟩ := hasOnly key value given
    exact ⟨item, .inl given⟩
  · exact ⟨default, .inr ⟨fun value given => isGiven ⟨value, given⟩, rfl⟩⟩

/-- A document that follows the schema settles on exactly one configuration. -/
theorem FollowsSchema.existsUnique_describes
    (distinct : Toml.HasDistinctKeys (.table fields))
    (hasTables : HasTables fields)
    (follows : FollowsSchema fields) :
    ∃! config, Describes fields config := by
  obtain ⟨scriptsDir, scanSettles⟩ := follows.scan.exists_settles "scripts"
  obtain ⟨disabled, rulesSettle⟩ := follows.rules.exists_settles []
  have describes : Describes fields ⟨scriptsDir, disabled⟩ := ⟨scanSettles, rulesSettle⟩
  refine ⟨_, describes, fun other otherDescribes => ?_⟩
  have decoded : ofDatum .toml (Toml.table fields).toDatum = .ok ⟨scriptsDir, disabled⟩ :=
    (ofDatum_eq_ok_iff distinct hasTables).mpr ⟨follows, describes⟩
  rw [(ofDatum_eq_ok_iff distinct hasTables).mpr ⟨follows, otherDescribes⟩] at decoded
  exact Except.ok.inj decoded

/-! ## Orders of keys -/

variable {others : List (String × Toml)}

theorem Assigns.of_reorders
    {value : Toml}
    (assigns : Assigns fields heading key value)
    (reorders : Toml.Reorders (.table fields) (.table others)) :
    ∃ other, Assigns others heading key other ∧ Toml.Reorders value other := by
  obtain ⟨entries, isField, given⟩ := assigns
  obtain ⟨_, same, forth⟩ := reorders.exists_table rfl
  obtain rfl := Toml.table.inj same
  obtain ⟨_, isOther, inner⟩ := forth heading _ isField
  obtain ⟨otherEntries, rfl, innerForth⟩ := inner.exists_table rfl
  obtain ⟨other, otherGiven, innermost⟩ := innerForth key value given
  exact ⟨other, ⟨otherEntries, isOther, otherGiven⟩, innermost⟩

/-- A value of a type without keys is the only one that it can be reordered to. -/
def HasFixedOrder (write : α → Toml) : Prop :=
  ∀ {item value}, Toml.Reorders (write item) value → value = write item

theorem HasOnly.of_reorders
    {write : α → Toml}
    (hasOnly : HasOnly fields heading key write)
    (isFixed : HasFixedOrder write)
    (reorders : Toml.Reorders (.table fields) (.table others)) :
    HasOnly others heading key write := by
  intro name value assigns
  obtain ⟨other, given, inner⟩ := assigns.of_reorders reorders.symm
  obtain ⟨isKey, item, rfl⟩ := hasOnly name other given
  exact ⟨isKey, item, isFixed inner.symm⟩

theorem Settles.of_reorders
    {write : α → Toml}
    {default item : α}
    (settles : Settles fields heading key write default item)
    (isFixed : HasFixedOrder write)
    (reorders : Toml.Reorders (.table fields) (.table others)) :
    Settles others heading key write default item := by
  rcases settles with given | ⟨absent, isDefault⟩
  · obtain ⟨other, otherGiven, inner⟩ := given.of_reorders reorders
    rw [isFixed inner] at otherGiven
    exact .inl otherGiven
  · refine .inr ⟨fun value given => ?_, isDefault⟩
    obtain ⟨other, otherGiven, _⟩ := given.of_reorders reorders.symm
    exact absent other otherGiven

theorem string_hasFixedOrder : HasFixedOrder Toml.string :=
  fun reorders => reorders.eq_string rfl

theorem writeTexts_hasFixedOrder : HasFixedOrder writeTexts :=
  fun reorders => reorders.eq_strings rfl

theorem FollowsSchema.of_reorders
    (follows : FollowsSchema fields)
    (reorders : Toml.Reorders (.table fields) (.table others)) :
    FollowsSchema others where
  sections := by
    rintro ⟨name, value⟩ isOther
    obtain ⟨_, same, back⟩ := reorders.symm.exists_table rfl
    obtain rfl := Toml.table.inj same
    obtain ⟨other, isField, _⟩ := back name value isOther
    exact follows.sections (name, other) isField
  scan := follows.scan.of_reorders string_hasFixedOrder reorders
  rules := follows.rules.of_reorders writeTexts_hasFixedOrder reorders

theorem Describes.of_reorders
    (describes : Describes fields config)
    (reorders : Toml.Reorders (.table fields) (.table others)) :
    Describes others config where
  scriptsDir := describes.scriptsDir.of_reorders string_hasFixedOrder reorders
  disabled := describes.disabled.of_reorders writeTexts_hasFixedOrder reorders

theorem HasTables.of_reorders
    (hasTables : HasTables fields)
    (reorders : Toml.Reorders (.table fields) (.table others)) :
    HasTables others := by
  intro name value isOther isSection
  obtain ⟨_, same, back⟩ := reorders.symm.exists_table rfl
  obtain rfl := Toml.table.inj same
  obtain ⟨other, isField, inner⟩ := back name value isOther
  obtain ⟨entries, rfl⟩ := hasTables name other isField isSection
  obtain ⟨otherEntries, isTable, _⟩ := inner.symm.exists_table rfl
  exact ⟨otherEntries, isTable⟩

/-! ## Loading configurations -/

/-- A file holds the text of a document. -/
def HoldsDocument (tree : FileTree) (path : Path)
    (fields : List (String × Toml)) : Prop :=
  ∃ chars, tree.read path = .ok (Text.encode chars) ∧ Toml.parse? chars = some fields

variable {tree : FileTree} {path : Path}

theorem load_of_holdsDocument
    (holds : HoldsDocument tree path fields) :
    (∀ {config}, ofDatum .toml (Toml.table fields).toDatum = .ok config →
      load tree path = config.validate) ∧
    ∀ {cause}, ofDatum .toml (Toml.table fields).toDatum = .error cause →
      load tree path = .error (.tomlSchema cause) := by
  obtain ⟨chars, readable, parsed⟩ := holds
  rw [load_of_holds readable]
  constructor <;> intro result decoded <;> simp only [ofText, parsed, decoded]

theorem HoldsDocument.hasDistinctKeys
    (holds : HoldsDocument tree path fields) :
    Toml.HasDistinctKeys (.table fields) := by
  obtain ⟨chars, _, parsed⟩ := holds
  exact Toml.hasDistinctKeys_of_parse? parsed

/-- A document that follows the schema is checked for its directory of scripts only. -/
theorem load_of_describes
    (holds : HoldsDocument tree path fields)
    (hasTables : HasTables fields)
    (follows : FollowsSchema fields)
    (describes : Describes fields config) :
    load tree path = config.validate :=
  (load_of_holdsDocument holds).1
    ((ofDatum_eq_ok_iff holds.hasDistinctKeys hasTables).mpr ⟨follows, describes⟩)

/-- A document that does not follow the schema fails for that reason, whatever its
directory of scripts is. -/
theorem exists_load_eq_tomlSchema
    (holds : HoldsDocument tree path fields)
    (hasTables : HasTables fields)
    (violates : ¬FollowsSchema fields) :
    ∃ cause, load tree path = .error (.tomlSchema cause) := by
  cases decoded : ofDatum .toml (Toml.table fields).toDatum with
  | error cause => exact ⟨cause, (load_of_holdsDocument holds).2 decoded⟩
  | ok config =>
      have both := (ofDatum_eq_ok_iff holds.hasDistinctKeys hasTables).mp decoded
      exact absurd both.1 violates

theorem load_eq_ok_iff
    (holds : HoldsDocument tree path fields)
    (hasTables : HasTables fields) :
    load tree path = .ok config ↔
      FollowsSchema fields ∧ Describes fields config ∧
      ¬LeavesSkill config.scriptsDir := by
  constructor
  · intro loaded
    by_cases follows : FollowsSchema fields
    · obtain ⟨described, describes, _⟩ :=
        follows.existsUnique_describes holds.hasDistinctKeys hasTables
      rw [load_of_describes holds hasTables follows describes, validate_eq_ok_iff]
        at loaded
      obtain ⟨stays, rfl⟩ := loaded
      exact ⟨follows, describes, stays⟩
    · obtain ⟨cause, failed⟩ := exists_load_eq_tomlSchema holds hasTables follows
      rw [failed] at loaded
      cases loaded
  · rintro ⟨follows, describes, stays⟩
    rw [load_of_describes holds hasTables follows describes]
    exact validate_eq_ok_iff.mpr ⟨stays, rfl⟩

end Config

/-! ## A configuration to try results on -/

namespace Sample

open FileTree (steps top linkLimit)

/-- A configuration file. -/
def configText : List Char :=
  "[rules]\ndisabled = [\"SH-102\"]\n[scan]\nscripts_dir = \"./bin\"\n".toList

/-- Its document. -/
def configFields : List (String × Toml) :=
  [("rules", .table [("disabled", .array [.string "SH-102"])]),
    ("scan", .table [("scripts_dir", .string "./bin")])]

/-- Whether fields are those of the document. -/
def areConfigFields : List (String × Toml) → Bool
  | [(rules, .table [(disabled, .array [.string id])]),
      (scan, .table [(scriptsDir, .string name)])] =>
      [rules, disabled, id] = ["rules", "disabled", "SH-102"] &&
        [scan, scriptsDir, name] = ["scan", "scripts_dir", "./bin"]
  | _ => false

theorem eq_configFields
    {fields : List (String × Toml)}
    (same : areConfigFields fields = true) :
    fields = configFields := by
  unfold areConfigFields at same
  split at same
  · simp_all [configFields]
  · cases same

/-- The file in a tree. -/
def configFile : Node :=
  .ofText ["skillgate.toml"] (.file (Text.encode configText)) false

/-- A tree with nothing but the file. -/
def configTree : FileTree where
  nodes := [configFile]
  working := []
  distinct := by decide
  rooted := by decide

/-- The path of the file. -/
def configPath : Path := Path.ofString "skillgate.toml"

theorem configTree_read : configTree.read configPath = .ok (Text.encode configText) := by
  have present : configTree.get? (top.location ++ [configPath]) = some configFile := by
    decide
  have leads : configTree.Leads linkLimit top (steps configPath) [[]] configFile := by
    have names : steps configPath = [configPath] := by decide
    rw [names]
    refine ⟨linkLimit, .move (.enter rfl rfl (by decide) present ?_) (.rest _)⟩
    simp [configFile, Node.ofText]
  rw [FileTree.read_of_status
    (FileTree.status_eq_ok_iff.mpr ⟨by decide, top, _, rfl, leads⟩)]
  rfl

theorem configTree_holdsDocument :
    Config.HoldsDocument configTree configPath configFields := by
  have read : (Toml.parse? configText).any areConfigFields = true := by decide +kernel
  obtain ⟨fields, parsed, same⟩ := (Option.any_eq_true _ _).mp read
  exact ⟨configText, configTree_read, eq_configFields same ▸ parsed⟩

theorem configFields_hasTables : Config.HasTables configFields := by
  intro name value isField _
  simp only [configFields, List.mem_cons, Prod.mk.injEq, List.not_mem_nil, or_false]
    at isField
  rcases isField with ⟨_, rfl⟩ | ⟨_, rfl⟩ <;> exact ⟨_, rfl⟩

theorem configFields_followsSchema : Config.FollowsSchema configFields where
  sections := by simp [configFields]
  scan := by simp [Config.HasOnly, Config.Assigns, configFields]
  rules := by
    rintro name value ⟨entries, isField, given⟩
    obtain rfl : entries = [("disabled", .array [.string "SH-102"])] := by
      simpa [configFields] using isField
    obtain ⟨rfl, rfl⟩ := Prod.mk.inj (List.mem_singleton.mp given)
    exact ⟨rfl, ["SH-102"], rfl⟩

end Sample

/-! ## Loading follows the schema -/

namespace Config

/-- A document whose sections are tables is loaded exactly when it follows the schema
and its directory of scripts stays inside of the skill. A schema that is not followed is
reported first, and only then a directory that leaves the skill. All this is the same
for a document with its keys in another order. -/
theorem load_follows_schema
    (tree : FileTree)
    (path : Path)
    (fields : List (String × Toml))
    (holds : HoldsDocument tree path fields)
    (hasTables : HasTables fields) :
    (∀ config, load tree path = .ok config ↔
      FollowsSchema fields ∧ Describes fields config ∧ ¬LeavesSkill config.scriptsDir) ∧
    (FollowsSchema fields → ∃! config, Describes fields config) ∧
    (¬FollowsSchema fields → ∃ cause, load tree path = .error (.tomlSchema cause)) ∧
    (∀ config, FollowsSchema fields → Describes fields config →
      LeavesSkill config.scriptsDir →
      load tree path = .error (.config (.scriptsDir config.scriptsDir))) ∧
    ∀ other otherPath others, HoldsDocument other otherPath others →
      Toml.Reorders (.table fields) (.table others) →
      (FollowsSchema others ↔ FollowsSchema fields) ∧
      ∀ config, load other otherPath = .ok config ↔ load tree path = .ok config := by
  refine ⟨fun config => load_eq_ok_iff holds hasTables,
    FollowsSchema.existsUnique_describes holds.hasDistinctKeys hasTables,
    exists_load_eq_tomlSchema holds hasTables, ?_, ?_⟩
  · intro config follows describes leaves
    rw [load_of_describes holds hasTables follows describes,
      validate_of_leavesSkill leaves]
  · intro other otherPath others otherHolds reorders
    have sameSchema : FollowsSchema others ↔ FollowsSchema fields :=
      ⟨fun follows => follows.of_reorders reorders.symm,
        fun follows => follows.of_reorders reorders⟩
    have sameConfig : ∀ config, Describes others config ↔ Describes fields config :=
        fun config =>
      ⟨fun describes => describes.of_reorders reorders.symm,
        fun describes => describes.of_reorders reorders⟩
    refine ⟨sameSchema, fun config => ?_⟩
    rw [load_eq_ok_iff otherHolds (hasTables.of_reorders reorders),
      load_eq_ok_iff holds hasTables, sameSchema, sameConfig]

theorem load_follows_schema_sample :
    HoldsDocument Sample.configTree Sample.configPath Sample.configFields ∧
      HasTables Sample.configFields ∧
      load Sample.configTree Sample.configPath = .ok ⟨"./bin", ["SH-102"]⟩ := by
  have describes : Describes Sample.configFields ⟨"./bin", ["SH-102"]⟩ := by
    constructor <;> exact .inl (by simp [Assigns, Sample.configFields, writeTexts])
  have stays : ¬LeavesSkill "./bin" := staysInside_iff.mp (by decide)
  refine ⟨Sample.configTree_holdsDocument, Sample.configFields_hasTables, ?_⟩
  exact ((load_follows_schema Sample.configTree Sample.configPath Sample.configFields
    Sample.configTree_holdsDocument Sample.configFields_hasTables).1 _).mpr
      ⟨Sample.configFields_followsSchema, describes, stays⟩

end Config
end ScriptAudit
