import ScriptAudit.Proofs.Path.LastName
import ScriptAudit.Proofs.Text.Decoding
import ScriptAudit.Proofs.Text.Lowercase

/-!
# Scripts by their extensions

A path leads to a script if the name at its end has one of the known extensions, in any
letter case. Only ASCII letters can spell these extensions, and nothing in front of the
extension has any influence.
-/

namespace ScriptAudit

open Text (Octets)

namespace Path

/-- A path ends in a name with an extension: nothing or a slash stands in front of the
name, and behind it nothing that has a meaning. The extension is what follows the last
dot of the name, which is not its first octet. -/
structure EndsIn (path front : Path) (stem extension : Octets) (tail : Path) : Prop where
  cut : path = front ++ (stem ++ 0x2E :: extension) ++ tail
  closed : front = [] ∨ ∃ base, front = base ++ [slash]
  idle : IsIdleTail tail
  isName : IsName (stem ++ 0x2E :: extension)
  stem_ne_nil : stem ≠ []
  noDot : 0x2E ∉ extension

theorem extension?_eq_some_iff {path : Path} {extension : Octets} :
    path.extension? = some extension ↔
      ∃ front stem tail, EndsIn path front stem extension tail := by
  rw [extension?, Option.bind_eq_some_iff]
  simp only [fileName?_eq_some_iff, extensionOfName?_eq_some_iff]
  constructor
  · rintro ⟨_, ⟨isName, front, tail, cut, closed, idle⟩, stem, rfl, nonempty, noDot⟩
    exact ⟨front, stem, tail, cut, closed, idle, isName, nonempty, noDot⟩
  · rintro ⟨front, stem, tail, cut, closed, idle, isName, nonempty, noDot⟩
    exact ⟨_, ⟨isName, front, tail, cut, closed, idle⟩, stem, rfl, nonempty, noDot⟩

end Path

namespace Language

open ScriptAudit.Path (EndsIn)

/-- Octets spell an extension if they are its letters, each of them small or capital. -/
def Spells (octets : Octets) (extension : String) : Prop :=
  ∃ letters, octets = Text.encode letters ∧ letters.map Char.toLower = extension.toList

/-- No character beyond ASCII can stand for a letter of a known extension. -/
theorem lowercase_eq_extension_iff
    {extension : String}
    {language : Language}
    (known : (extension, language) ∈ extensions)
    (chars : List Char) :
    Text.lowercase chars = extension.toList ↔
      chars.map Char.toLower = extension.toList := by
  have plain : ∀ entry ∈ extensions, ∀ char ∈ entry.1.toList,
      char.toNat < 128 ∧ char ≠ 'k' := by
    decide
  exact Text.lowercase_eq_iff (plain _ known) chars

/-- Every known extension stands for one language. -/
theorem find?_extensions_eq_some_iff {word : List Char} {language : Language} :
    (extensions.find? fun known => known.1.toList == word).map (·.2) = some language ↔
      ∃ extension, (extension, language) ∈ extensions ∧ word = extension.toList := by
  constructor
  · intro found
    obtain ⟨⟨extension, _⟩, first, rfl⟩ := Option.map_eq_some_iff.mp found
    have same : extension.toList = word := by simpa using List.find?_some first
    exact ⟨extension, List.mem_of_find?_eq_some first, same.symm⟩
  · rintro ⟨extension, known, rfl⟩
    have first : ∀ entry ∈ extensions,
        (extensions.find? fun known => known.1.toList == entry.1.toList).map (·.2) =
          some entry.2 := by decide
    exact first _ known

theorem ofExtension?_eq_some_iff {octets : Octets} {language : Language} :
    ofExtension? octets = some language ↔
      ∃ extension, (extension, language) ∈ extensions ∧ Spells octets extension := by
  simp only [ofExtension?, Option.bind_eq_some_iff, Text.decode?_eq_some_iff,
    find?_extensions_eq_some_iff]
  constructor
  · rintro ⟨letters, rfl, extension, known, same⟩
    exact ⟨extension, known, letters, rfl,
      (lowercase_eq_extension_iff known letters).mp same⟩
  · rintro ⟨extension, known, letters, rfl, same⟩
    exact ⟨letters, rfl, extension, known,
      (lowercase_eq_extension_iff known letters).mpr same⟩

/-- A path leads to a script of a language exactly if it ends in a name whose extension
is spelled like one that is known for the language, with small or capital ASCII letters.
No other text has a known extension as its lower-case form, and neither what stands in
front of the extension nor what leads to the name has any influence, whatever octets it
consists of. -/
theorem classification_goes_by_extension :
    (∀ path language, classify? path = some language ↔
      ∃ front stem octets tail, EndsIn path front stem octets tail ∧
        ∃ extension, (extension, language) ∈ extensions ∧ Spells octets extension) ∧
    (∀ extension language, (extension, language) ∈ extensions →
      ∀ chars, Text.lowercase chars = extension.toList ↔
        chars.map Char.toLower = extension.toList) ∧
    ∀ octets path front stem tail other otherFront otherStem otherTail,
      EndsIn path front stem octets tail →
        EndsIn other otherFront otherStem octets otherTail →
        classify? path = classify? other := by
  refine ⟨fun path language => ?_, fun extension language known chars => ?_, ?_⟩
  · rw [classify?, Option.bind_eq_some_iff]
    simp only [Path.extension?_eq_some_iff, ofExtension?_eq_some_iff]
    constructor
    · rintro ⟨octets, ⟨front, stem, tail, ends⟩, spelled⟩
      exact ⟨front, stem, octets, tail, ends, spelled⟩
    · rintro ⟨front, stem, octets, tail, ends, spelled⟩
      exact ⟨octets, ⟨front, stem, tail, ends⟩, spelled⟩
  · exact lowercase_eq_extension_iff known chars
  · intro octets path front stem tail other otherFront otherStem otherTail ends otherEnds
    have found : path.extension? = some octets :=
      Path.extension?_eq_some_iff.mpr ⟨front, stem, tail, ends⟩
    have otherFound : other.extension? = some octets :=
      Path.extension?_eq_some_iff.mpr ⟨otherFront, otherStem, otherTail, otherEnds⟩
    rw [classify?, classify?, found, otherFound]

/-- A path through a directory and to a script whose names are no text, with slashes and
a dot behind. -/
def Sample.oddPath : Path :=
  [0xFF] ++ Path.ofString "/." ++ [0x80] ++ Path.ofString ".Py//./"

theorem classification_goes_by_extension_oddPath :
    EndsIn Sample.oddPath [0xFF, Path.slash] [0x2E, 0x80] (Path.ofString "Py")
        (Path.ofString "//./") ∧
      classify? Sample.oddPath = some .python := by
  have ends : EndsIn Sample.oddPath [0xFF, Path.slash] [0x2E, 0x80] (Path.ofString "Py")
      (Path.ofString "//./") := by
    refine ⟨by decide +kernel, .inr ⟨[0xFF], rfl⟩, ?_, by decide +kernel,
      by decide, by decide⟩
    exact .slash (.slashDot (.slash .nil))
  refine ⟨ends, (classification_goes_by_extension.1 Sample.oddPath .python).mpr ?_⟩
  exact ⟨_, _, _, _, ends, "py", by decide, "Py".toList, rfl, by decide⟩

end Language
end ScriptAudit
