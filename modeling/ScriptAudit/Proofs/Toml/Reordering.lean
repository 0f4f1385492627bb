import Mathlib.Data.List.Perm.Basic
import ScriptAudit.Toml

/-!
# Orders of keys

A value can be written with the keys of its tables in any order. Whatever order they are
written in, the same keys stand for the same values up to such orders.
-/

namespace ScriptAudit
namespace Toml

/-- One value with the keys of its tables in another order, at any depth. -/
inductive Reorders : Toml → Toml → Prop
  | refl (value : Toml) : Reorders value value
  | trans {first second third : Toml}
      (before : Reorders first second)
      (after : Reorders second third) :
      Reorders first third
  | keys {fields others : List (String × Toml)}
      (permuted : fields.Perm others) :
      Reorders (.table fields) (.table others)
  | field {front behind : List (String × Toml)} {name : String} {value other : Toml}
      (inner : Reorders value other) :
      Reorders (.table (front ++ (name, value) :: behind))
        (.table (front ++ (name, other) :: behind))
  | item {front behind : List Toml} {value other : Toml}
      (inner : Reorders value other) :
      Reorders (.array (front ++ value :: behind)) (.array (front ++ other :: behind))

namespace Reorders

variable {first second : Toml}

theorem symm (reorders : Reorders first second) : Reorders second first := by
  induction reorders with
  | refl value => exact .refl value
  | trans _ _ beforeHypothesis afterHypothesis =>
      exact afterHypothesis.trans beforeHypothesis
  | keys permuted => exact .keys permuted.symm
  | field _ inductionHypothesis => exact .field inductionHypothesis
  | item _ inductionHypothesis => exact .item inductionHypothesis

theorem eq_string
    {text : String}
    (reorders : Reorders first second)
    (isText : first = .string text) :
    second = .string text := by
  induction reorders with
  | refl => exact isText
  | trans _ _ beforeHypothesis afterHypothesis =>
      exact afterHypothesis (beforeHypothesis isText)
  | keys | field | item => cases isText

/-- There are no keys in an array of texts. -/
theorem eq_strings
    {texts : List String}
    (reorders : Reorders first second)
    (areTexts : first = .array (texts.map .string)) :
    second = .array (texts.map .string) := by
  induction reorders with
  | refl => exact areTexts
  | trans _ _ beforeHypothesis afterHypothesis =>
      exact afterHypothesis (beforeHypothesis areTexts)
  | keys | field => cases areTexts
  | @item front behind value other inner _ =>
      have items := Toml.array.inj areTexts
      have listed : value ∈ texts.map Toml.string := by simp [← items]
      obtain ⟨text, _, isText⟩ := List.mem_map.mp listed
      rw [inner.eq_string isText.symm, isText, items]

/-- A table stays a table, in which every key stands for the same. -/
theorem exists_table
    {fields : List (String × Toml)}
    (reorders : Reorders first second)
    (isTable : first = .table fields) :
    ∃ others, second = .table others ∧ ∀ name value, (name, value) ∈ fields →
      ∃ other, (name, other) ∈ others ∧ Reorders value other := by
  induction reorders generalizing fields with
  | refl =>
      exact ⟨fields, isTable, fun name value isField => ⟨value, isField, .refl value⟩⟩
  | trans _ _ beforeHypothesis afterHypothesis =>
      obtain ⟨between, betweenTable, forth⟩ := beforeHypothesis isTable
      obtain ⟨others, othersTable, further⟩ := afterHypothesis betweenTable
      refine ⟨others, othersTable, fun name value isField => ?_⟩
      obtain ⟨other, isOther, inner⟩ := forth name value isField
      obtain ⟨last, isLast, innermost⟩ := further name other isOther
      exact ⟨last, isLast, inner.trans innermost⟩
  | keys permuted =>
      obtain rfl := Toml.table.inj isTable
      exact ⟨_, rfl, fun name value isField =>
        ⟨value, permuted.subset isField, .refl value⟩⟩
  | @field front behind changed value other inner _ =>
      obtain rfl := Toml.table.inj isTable
      refine ⟨_, rfl, fun name found isField => ?_⟩
      rcases List.mem_append.mp isField with earlier | rest
      · exact ⟨found, List.mem_append_left _ earlier, .refl found⟩
      · rcases List.mem_cons.mp rest with same | later
        · obtain ⟨rfl, rfl⟩ := Prod.mk.inj same
          exact ⟨other, by simp, inner⟩
        · exact ⟨found, by simp [later], .refl found⟩
  | item => cases isTable

end Reorders
end Toml
end ScriptAudit
