import ScriptAudit.Proofs.Audit.Spelling
import ScriptAudit.Proofs.Path.Texts

/-!
# How a report names its skill

A report shows the path of its skill in a normal form. If the path is text, what is
shown leads through the same components and holds nothing superfluous, and two paths are
shown alike exactly if they have the same components.
-/

namespace ScriptAudit

open ScriptAudit.Path (ofString)
open Text (IsText)

namespace Path

theorem ofString_injective : Function.Injective ofString := fun _ _ same =>
  String.toList_injective (Text.encode_injective same)

/-- What stands within a text stands within its octets. -/
theorem ofString_infix
    {part text : String}
    (within : part.toList <:+: text.toList) :
    ofString part <:+: ofString text := by
  obtain ⟨before, behind, whole⟩ := within
  refine ⟨Text.encode before, Text.encode behind, ?_⟩
  rw [ofString, ofString, ← whole, Text.encode_append, Text.encode_append]

theorem ofString_suffix
    {part text : String}
    (ends : part.toList <:+ text.toList) :
    ofString part <:+ ofString text := by
  obtain ⟨before, whole⟩ := ends
  exact ⟨Text.encode before, by rw [ofString, ofString, ← whole, Text.encode_append]⟩

end Path

namespace Report

/-- A text that shows a path, and nothing superfluous with it. The empty path is shown
as the current directory. -/
structure ShowsCompactly (path : Path) (text : String) : Prop where
  nonempty : text ≠ ""
  components_eq : path ≠ [] → (ofString text).components = path.components
  of_nil : path = [] → text = "."
  noEmptySegment : ¬"//".toList <:+: text.toList
  noDotSegment : ¬"/./".toList <:+: text.toList
  eq_root_of_suffix : "/".toList <:+ text.toList → text = "/"

variable {path : Path}

theorem displayRoot_eq (nonempty : path ≠ []) :
    displayRoot path = path.canonical.display := by
  unfold displayRoot
  split
  · rename_i noComponents
    exact absurd (Path.components_eq_nil_iff.mp noComponents) nonempty
  · rfl

/-- What is shown of a path that is text is its canonical path. -/
theorem ofString_displayRoot
    (nonempty : path ≠ [])
    (isText : IsText path) :
    ofString (displayRoot path) = path.canonical := by
  rw [displayRoot_eq nonempty, Path.ofString_display (Path.isText_canonical isText)]

/-- A text that writes a canonical path shows the path. -/
theorem showsCompactly_of_canonical
    {text : String}
    (nonempty : path ≠ [])
    (written : ofString text = path.canonical) :
    ShowsCompactly path text := by
  have compact : (ofString text).IsCompact := written ▸ path.isCompact_canonical
  have same : (ofString text).components = path.components := by
    rw [written, Path.components_canonical]
  constructor
  · rintro rfl
    exact nonempty (Path.components_eq_nil_iff.mp same.symm)
  · exact fun _ => same
  · exact fun empty => absurd empty nonempty
  · intro within
    have idle : Path.isIdle [] = true := rfl
    exact compact.not_infix idle (Path.ofString_infix within)
  · intro within
    have idle : Path.isIdle Path.dot = true := rfl
    exact compact.not_infix idle (Path.ofString_infix within)
  · intro ends
    have idle : Path.isIdle [] = true := rfl
    have isRoot := compact.eq_root_of_suffix idle (Path.ofString_suffix ends)
    exact Path.ofString_injective isRoot

theorem showsCompactly_displayRoot (isText : IsText path) :
    ShowsCompactly path (displayRoot path) := by
  rcases eq_or_ne path [] with rfl | nonempty
  · have shown : displayRoot [] = "." := rfl
    rw [shown]
    constructor
    all_goals decide
  · exact showsCompactly_of_canonical nonempty (ofString_displayRoot nonempty isText)

/-- What is shown of a path is shown as it is. -/
theorem displayRoot_ofString_displayRoot (isText : IsText path) :
    displayRoot (ofString (displayRoot path)) = displayRoot path := by
  rcases eq_or_ne path [] with rfl | nonempty
  · decide
  · exact displayRoot_congr ((showsCompactly_displayRoot isText).components_eq nonempty)

/-- Of every path that is text a report shows a normal form: a text that leads through
the same components without anything superfluous, that is shown as it is, and that is
the same for two paths exactly if they have the same components. Only the empty path,
which has no components, is shown as another one. -/
theorem displayRoot_is_normal_form :
    (∀ path : String,
      ShowsCompactly (ofString path) (displayRoot (ofString path)) ∧
        displayRoot (ofString (displayRoot (ofString path))) =
          displayRoot (ofString path)) ∧
    ∀ first second : String, first ≠ "" → second ≠ "" →
      (displayRoot (ofString first) = displayRoot (ofString second) ↔
        (ofString first).components = (ofString second).components) := by
  refine ⟨fun path => ?_, fun first second firstNonempty secondNonempty => ⟨?_, ?_⟩⟩
  · have isText := Path.isText_ofString path
    exact ⟨showsCompactly_displayRoot isText, displayRoot_ofString_displayRoot isText⟩
  · intro same
    have firstWritten := ofString_displayRoot
      (mt Path.ofString_eq_nil_iff.mp firstNonempty) (Path.isText_ofString first)
    have secondWritten := ofString_displayRoot
      (mt Path.ofString_eq_nil_iff.mp secondNonempty) (Path.isText_ofString second)
    rw [← Path.canonical_eq_canonical_iff, ← firstWritten, same, secondWritten]
  · exact displayRoot_congr

/-- Two spellings of one path that is not ASCII, and a path that differs from them only
by the dot at its start. -/
theorem displayRoot_is_normal_form_dotted :
    displayRoot (ofString "././skill//é/../.") =
      displayRoot (ofString "./skill/./é/..//") ∧
      displayRoot (ofString "./skill/./é/..//") = "./skill/é/.." ∧
      displayRoot (ofString "./skill/./é/..//") ≠
        displayRoot (ofString "skill/é/..") := by
  refine ⟨?_, by decide +kernel, ?_⟩
  · exact (displayRoot_is_normal_form.2 _ _ (by decide) (by decide)).mpr
      (by decide +kernel)
  · intro same
    have sameComponents :=
      (displayRoot_is_normal_form.2 _ _ (by decide) (by decide)).mp same
    revert sameComponents
    decide +kernel

end Report
end ScriptAudit
