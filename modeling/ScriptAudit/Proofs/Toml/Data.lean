import ScriptAudit.Proofs.Datum.Records
import ScriptAudit.Toml

/-!
# Data of TOML values

A value is decoded as a text, or as a list of texts, exactly when it is one. Of a table,
a key that may be left out is decoded to what is given for it, or else to its default.
-/

namespace ScriptAudit
namespace Toml

theorem toData_eq_map (items : List Toml) : toData items = items.map toDatum := by
  induction items with
  | nil => rw [toData, List.map_nil]
  | cons item items inductionHypothesis =>
      rw [toData, inductionHypothesis, List.map_cons]

theorem fieldData_eq_map (fields : List (String × Toml)) :
    fieldData fields = fields.map fun field => (field.1, field.2.toDatum) := by
  induction fields with
  | nil => rw [fieldData, List.map_nil]
  | cons field fields inductionHypothesis =>
      rw [fieldData, inductionHypothesis, fieldDatum, List.map_cons]

theorem toText_toDatum_eq_ok_iff
    {value : Toml}
    {text : String} :
    value.toDatum.toText = .ok text ↔ value = .string text := by
  cases value <;> simp [toDatum, Datum.toText, Datum.mismatch]

theorem mapM_toText_eq_ok_iff
    {items : List Toml}
    {texts : List String} :
    (items.map toDatum).mapM Datum.toText = .ok texts ↔ items = texts.map .string := by
  induction items generalizing texts with
  | nil => cases texts <;> simp [pure, Except.pure]
  | cons item items inductionHypothesis =>
      rw [List.map_cons, List.mapM_cons]
      cases decoded : item.toDatum.toText with
      | error cause =>
          have noText : ∀ text, item ≠ .string text := fun text isText => by
            rw [toText_toDatum_eq_ok_iff.mpr isText] at decoded
            cases decoded
          cases texts <;> simp [bind, Except.bind, noText]
      | ok text =>
          obtain rfl := toText_toDatum_eq_ok_iff.mp decoded
          cases rest : (items.map toDatum).mapM Datum.toText with
          | error cause =>
              have noTexts : ∀ others : List String, items ≠ others.map .string :=
                fun others areTexts => by
                  rw [inductionHypothesis.mpr areTexts] at rest
                  cases rest
              cases texts <;> simp [bind, Except.bind, noTexts]
          | ok others =>
              obtain rfl := inductionHypothesis.mp rest
              have injective : (List.map Toml.string).Injective :=
                List.map_injective_iff.mpr fun _ _ => Toml.string.inj
              rw [← List.map_cons, injective.eq_iff]
              simp [bind, Except.bind, pure, Except.pure]

/-- Only an array of texts is decoded as a list of texts. -/
theorem toList_toText_toDatum_eq_ok_iff
    {value : Toml}
    {texts : List String} :
    value.toDatum.toList Datum.toText = .ok texts ↔
      value = .array (texts.map .string) := by
  cases value with
  | array items =>
      rw [toDatum, Datum.toList, toData_eq_map, mapM_toText_eq_ok_iff, Toml.array.injEq]
  | _ => simp [toDatum, Datum.toList, Datum.mismatch]

/-- What a key with a default is decoded to: what is given for it, or else the default.
-/
theorem withDefault_fieldData_eq_ok_iff
    {fields : List (String × Toml)}
    (distinct : (fields.map Prod.fst).Nodup)
    {name : String}
    {decode : Datum → Decoded α}
    {default result : α} :
    withDefault (fieldData fields) name decode default = .ok result ↔
      (∃ value, (name, value) ∈ fields ∧ decode value.toDatum = .ok result) ∨
        (∀ value, (name, value) ∉ fields) ∧ result = default := by
  have sameNames : ((fieldData fields).map Prod.fst).Nodup := by
    simpa [fieldData_eq_map, Function.comp_def] using distinct
  by_cases isGiven : ∃ value, (name, value) ∈ fields
  · obtain ⟨value, isField⟩ := isGiven
    have isData : (name, value.toDatum) ∈ fieldData fields := by
      rw [fieldData_eq_map]
      exact List.mem_map.mpr ⟨_, isField, rfl⟩
    have unique : ∀ other, (name, other) ∈ fields → other = value := fun other isOther =>
      (Prod.mk.inj (List.inj_on_of_nodup_map distinct isOther isField rfl)).2
    rw [withDefault, find?_eq_some_of_nodup sameNames isData]
    constructor
    · exact fun decoded => .inl ⟨value, isField, decoded⟩
    · rintro (⟨other, isOther, decoded⟩ | ⟨absent, _⟩)
      · rwa [unique other isOther] at decoded
      · exact absurd isField (absent value)
  · have absent : ∀ value, (name, value) ∉ fields := fun value isField =>
      isGiven ⟨value, isField⟩
    have unnamed : ((fieldData fields).find? fun entry => entry.1 == name) = none := by
      refine List.find?_eq_none.mpr fun entry member sameName => ?_
      rw [fieldData_eq_map] at member
      obtain ⟨field, isField, rfl⟩ := List.mem_map.mp member
      obtain rfl : field.1 = name := by simpa using sameName
      exact absent field.2 isField
    rw [withDefault, unnamed]
    simp [absent, eq_comm]

end Toml
end ScriptAudit
