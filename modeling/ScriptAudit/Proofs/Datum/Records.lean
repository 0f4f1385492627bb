import Mathlib.Data.List.Nodup
import Mathlib.Data.List.Perm.Basic
import ScriptAudit.Datum

/-!
# Records in written objects

A record is decoded from the fields of an object by their names. As long as an object
names no field twice, the order of its fields does not matter: each name gives the value
that was written for it.
-/

namespace ScriptAudit
namespace Json

@[simp] theorem toData_eq_map (items : List Json) :
    toData items = items.map toDatum := by
  induction items with
  | nil => rw [toData, List.map_nil]
  | cons item items inductionHypothesis =>
      rw [toData, inductionHypothesis, List.map_cons]

@[simp] theorem fieldData_eq_map (fields : List (String × Json)) :
    fieldData fields = fields.map fun field => (field.1, field.2.toDatum) := by
  induction fields with
  | nil => rw [fieldData, List.map_nil]
  | cons field fields inductionHypothesis =>
      rw [fieldData, inductionHypothesis, fieldDatum, List.map_cons]

/-- Fields with different names are only put into another order. -/
theorem sortFields_perm
    {fields : List (String × Datum)}
    (distinct : (fields.map Prod.fst).Nodup) :
    (sortFields fields).Perm fields := by
  have latest : (fields.foldr (fun field kept =>
      if kept.any fun other => other.1 == field.1 then kept
          else field :: kept) []) = fields := by
    induction fields with
    | nil => rfl
    | cons field fields inductionHypothesis =>
        rw [List.map_cons, List.nodup_cons] at distinct
        rw [List.foldr_cons, inductionHypothesis distinct.2]
        refine if_neg fun again => distinct.1 ?_
        obtain ⟨other, isOther, sameName⟩ := List.any_eq_true.mp again
        exact List.mem_map.mpr ⟨other, isOther, eq_of_beq sameName⟩
  rw [sortFields, List.foldl_reverse, latest]
  exact List.mergeSort_perm _ _

end Json

/-- A name that is given once is found with what is given for it. -/
theorem find?_eq_some_of_nodup
    {given : List (String × α)}
    (distinct : (given.map Prod.fst).Nodup)
    {name : String}
    {item : α}
    (isGiven : (name, item) ∈ given) :
    (given.find? fun entry => entry.1 == name) = some (name, item) := by
  cases found : given.find? fun entry => entry.1 == name with
  | none =>
      have absent := List.find?_eq_none.mp found _ isGiven
      simp at absent
  | some entry =>
      have sameName : entry.1 = name := by simpa using List.find?_some found
      have sameEntry :=
        List.inj_on_of_nodup_map distinct (List.mem_of_find?_eq_some found)
        isGiven sameName
      rw [sameEntry]

/-- Data that give the fields of an object, each name once. -/
structure Gives (given : List (String × Datum)) (fields : List (String × Json)) :
    Prop where
  distinct : (given.map Prod.fst).Nodup
  mem_iff : ∀ name datum,
    (name, datum) ∈ given ↔ ∃ value, (name, value) ∈ fields ∧ datum = value.toDatum

theorem gives_sortFields
    {fields : List (String × Json)}
    (distinct : (fields.map Prod.fst).Nodup) :
    Gives (Json.sortFields (Json.fieldData fields)) fields := by
  have names : ((Json.fieldData fields).map Prod.fst).Nodup := by
    simpa [Function.comp_def] using distinct
  have sorted := Json.sortFields_perm names
  refine ⟨(sorted.map Prod.fst).nodup_iff.mpr names, fun name datum => ?_⟩
  rw [sorted.mem_iff]
  simp [eq_comm]

namespace Gives

variable {given : List (String × Datum)} {fields : List (String × Json)}

theorem find?_eq_some
    (gives : Gives given fields)
    {name : String}
    {value : Json}
    (isField : (name, value) ∈ fields) :
    (given.find? fun entry => entry.1 == name) = some (name, value.toDatum) := by
  exact find?_eq_some_of_nodup gives.distinct
    ((gives.mem_iff _ _).mpr ⟨value, isField, rfl⟩)

theorem find?_eq_none
    (gives : Gives given fields)
    {name : String}
    (absent : ∀ value, (name, value) ∉ fields) :
    (given.find? fun entry => entry.1 == name) = none := by
  refine List.find?_eq_none.mpr ?_
  rintro ⟨other, datum⟩ isGiven sameName
  obtain rfl : other = name := by simpa using sameName
  obtain ⟨value, isField, _⟩ := (gives.mem_iff _ _).mp isGiven
  exact absent value isField

/-- A field is decoded from the value that was written for it. -/
theorem required_eq
    (gives : Gives given fields)
    {name : String}
    {value : Json}
    (isField : (name, value) ∈ fields)
    (decode : Datum → Decoded α) :
    required given name decode = decode value.toDatum := by
  rw [required, gives.find?_eq_some isField]

/-- A field that is only written when it has a value is decoded to what it was. -/
theorem withDefault_eq
    (gives : Gives given fields)
    {name : String}
    {write : α → Json}
    {content : Option α}
    (written : ∀ value, (name, value) ∈ fields ↔ ∃ item ∈ content, value = write item)
    {decode : Datum → Decoded (Option α)}
    (decoded : ∀ item ∈ content, decode (write item).toDatum = .ok (some item)) :
    withDefault given name decode none = .ok content := by
  cases content with
  | none =>
      rw [withDefault, gives.find?_eq_none (by simp [written])]
  | some item =>
      rw [withDefault, gives.find?_eq_some ((written _).mpr ⟨item, rfl, rfl⟩)]
      exact decoded item rfl

end Gives

/-- Decoding in two steps succeeds if both of them do. -/
theorem bind_eq_ok_iff
    {decoded : Decoded α}
    {next : α → Decoded β}
    {result : β} :
    decoded >>= next = .ok result ↔
      ∃ value, decoded = .ok value ∧ next value = .ok result := by
  cases decoded <;> simp [bind, Except.bind]

@[simp] theorem Field.name_of
    (name : String)
    (optional : Bool)
    (decode : Datum → Decoded α) :
    (Field.of name optional decode).name = name := rfl

theorem Field.check_of_eq_ok_iff
    {name : String}
    {optional : Bool}
    {decode : Datum → Decoded α}
    {datum : Datum} :
    (Field.of name optional decode).check datum = .ok () ↔
      ∃ value, decode datum = .ok value := by
  cases decoded : decode datum <;> simp [Field.of, decoded, Except.map]

namespace RecordShape

/-- The fields of an object have the shape of a record: those that the shape names pass
its checks, and none that it needs is left out. -/
def Accepts (shape : RecordShape) (fields : List (String × Json)) : Prop :=
  ∀ field ∈ shape.fields,
    (∀ value, (field.name, value) ∈ fields → field.check value.toDatum = .ok ()) ∧
      (field.optional = true ∨ ∃ value, (field.name, value) ∈ fields)

variable {shape : RecordShape} {given : List (String × Datum)}
  {fields : List (String × Json)}

theorem checkGiven_eq_ok
    (isOpen : shape.closed = false)
    (passes : ∀ entry ∈ given, ∀ field ∈ shape.fields, field.name = entry.1 →
      field.check entry.2 = .ok ()) :
    shape.checkGiven given = .ok () := by
  induction given with
  | nil => rw [checkGiven]
  | cons entry given inductionHypothesis =>
      have others := inductionHypothesis fun other isOther =>
        passes other (List.mem_cons_of_mem entry isOther)
      rw [checkGiven, others]
      cases known : shape.fields.find? fun field => field.name == entry.1 with
      | none => simp [isOpen]
      | some field =>
          have passed :=
            passes entry List.mem_cons_self field (List.mem_of_find?_eq_some known)
            (by simpa using List.find?_some known)
          simp [passed]

theorem checkComplete_eq_ok
    {needed : List Field}
    (complete : ∀ field ∈ needed, field.optional = true ∨
      ∃ datum, (field.name, datum) ∈ given) : checkComplete given needed = .ok () := by
  induction needed with
  | nil => rw [checkComplete]
  | cons field needed inductionHypothesis =>
      rw [checkComplete, if_pos]
      · exact inductionHypothesis fun other isOther =>
          complete other (List.mem_cons_of_mem field isOther)
      · rcases complete field List.mem_cons_self with isOptional | ⟨datum, isGiven⟩
        · simp [isOptional]
        · rw [Bool.or_eq_true, List.any_eq_true]
          exact .inr ⟨_, isGiven, by simp⟩

/-- A shape names a field, and what is given for it passes its check. -/
def Admits (shape : RecordShape) (entry : String × Datum) : Prop :=
  ∃ field, (shape.fields.find? fun field => field.name == entry.1) = some field ∧
    field.check entry.2 = .ok ()

/-- A closed shape has to admit everything that is given. -/
theorem checkGiven_eq_ok_iff (isClosed : shape.closed = true) :
    shape.checkGiven given = .ok () ↔ ∀ entry ∈ given, shape.Admits entry := by
  induction given with
  | nil => simp [checkGiven]
  | cons entry given inductionHypothesis =>
      rw [List.forall_mem_cons, ← inductionHypothesis, checkGiven, Admits]
      cases known : shape.fields.find? fun field => field.name == entry.1 with
      | none => simp [isClosed]
      | some field => cases checked : field.check entry.2 <;> simp [checked]

/-- A closed shape that needs nothing takes what is given if it admits all of it. -/
theorem fieldsOf_map_eq_ok_iff
    {format : DataFormat}
    {taken : List (String × Datum)}
    (isClosed : shape.closed = true)
    (areOptional : ∀ field ∈ shape.fields, field.optional = true) :
    shape.fieldsOf format (.map given) = .ok taken ↔
      (∀ entry ∈ given, shape.Admits entry) ∧ given = taken := by
  have complete : checkComplete given shape.fields = .ok () :=
    checkComplete_eq_ok fun field isPart => .inl (areOptional field isPart)
  rw [← checkGiven_eq_ok_iff isClosed, fieldsOf, complete]
  cases shape.checkGiven given <;> simp [bind, Except.bind]

/-- The fields of an object that has the shape are taken from it. -/
theorem Accepts.exists_gives
    (accepts : shape.Accepts fields)
    (isOpen : shape.closed = false)
    (distinct : (fields.map Prod.fst).Nodup) :
    ∃ given, shape.fieldsOf .json (Json.object fields).toDatum = .ok given ∧
      Gives given fields := by
  have gives := gives_sortFields distinct
  refine ⟨_, ?_, gives⟩
  have checked : shape.checkGiven (Json.sortFields (Json.fieldData fields)) = .ok () := by
    refine checkGiven_eq_ok isOpen ?_
    rintro ⟨name, datum⟩ isGiven field isPart rfl
    obtain ⟨value, isField, rfl⟩ := (gives.mem_iff _ _).mp isGiven
    exact (accepts field isPart).1 value isField
  have complete : checkComplete (Json.sortFields (Json.fieldData fields)) shape.fields =
      .ok () := by
    refine checkComplete_eq_ok fun field isPart => ?_
    refine (accepts field isPart).2.imp_right ?_
    rintro ⟨value, isField⟩
    exact ⟨_, (gives.mem_iff _ _).mpr ⟨value, isField, rfl⟩⟩
  rw [Json.toDatum, fieldsOf, checked, complete]
  rfl

end RecordShape
end ScriptAudit
