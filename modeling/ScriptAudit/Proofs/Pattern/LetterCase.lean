import ScriptAudit.Proofs.Pattern.Meaning
import ScriptAudit.Proofs.Text.Letters

/-!
# Letter case in expressions

A class that is closed under case variants does not tell the forms of a letter apart,
and neither do blanks, digits and word characters. An expression of such classes matches
the same parts of two lines that are written with the same letters. Assertions and
lookaround do not change that, since the end of a line, a line feed and the bounds of
words do not depend on letter case.
-/

namespace ScriptAudit
namespace Pattern

open Text (SameLetter)

/-- Two lines are written with the same letters, in whatever case. -/
def Line.SameLetters (first second : Line) : Prop :=
  List.Forall₂ SameLetter first.toList second.toList

instance (first second : Line) : Decidable (first.SameLetters second) :=
  inferInstanceAs (Decidable (List.Forall₂ ..))

/-! ## Classes -/

namespace CharClass

theorem contains_folded_iff {inner : CharClass} {char : Char} :
    (folded inner).contains char = true ↔
      ∃ member ∈ char :: Text.caseVariants char, inner.contains member = true := by
  simp [contains]

/-- A class that is closed under case variants contains all forms of a letter or none.
-/
theorem contains_folded_congr
    {inner : CharClass}
    {first second : Char}
    (same : SameLetter first second) :
    (folded inner).contains first = (folded inner).contains second := by
  rw [Bool.eq_iff_iff, contains_folded_iff, contains_folded_iff]
  simp only [Text.mem_forms_congr same]

/-- A folded class of ASCII characters contains the forms of its letters. -/
theorem contains_folded_iff_of_ascii
    {inner : CharClass}
    (ascii : ∀ member, inner.contains member = true → member.toNat < 128)
    (char : Char) :
    (folded inner).contains char = true ↔
      ∃ member, inner.contains member = true ∧ SameLetter member char := by
  rw [contains_folded_iff]
  constructor
  · rintro ⟨member, form, inside⟩
    exact ⟨member, inside, (Text.mem_forms_iff (ascii member inside)).mp form⟩
  · rintro ⟨member, inside, same⟩
    exact ⟨member, (Text.mem_forms_iff (ascii member inside)).mpr same, inside⟩

/-- Whether a class does not tell the forms of a letter apart. A range that is not
folded has to keep clear of the letters or to hold all their forms. -/
def ignoresCase : CharClass → Bool
  | .range low high =>
      Text.otherForms.all fun char =>
        (range low high).contains char == (range low high).contains (Text.smallForm char)
  | .blank => true
  | .digit => true
  | .word => true
  | .category _ => false
  | .union left right => left.ignoresCase && right.ignoresCase
  | .compl inner => inner.ignoresCase
  | .folded _ => true

theorem contains_congr
    {members : CharClass}
    (ignores : members.ignoresCase = true)
    {first second : Char}
    (same : SameLetter first second) :
    members.contains first = members.contains second := by
  induction members with
  | range low high =>
      refine Text.eq_of_sameLetter (fun char other => ?_) same
      exact beq_iff_eq.mp (List.all_eq_true.mp ignores char other)
  | blank => exact Text.isBlank_congr same
  | digit => exact Text.isDigit_congr same
  | word => exact Text.isWord_congr same
  | category members => cases ignores
  | union left right leftHypothesis rightHypothesis =>
      simp only [ignoresCase, Bool.and_eq_true] at ignores
      rw [contains_union, contains_union, leftHypothesis ignores.1,
        rightHypothesis ignores.2]
  | compl inner inductionHypothesis =>
      rw [contains_compl, contains_compl, inductionHypothesis ignores]
  | folded inner inductionHypothesis => exact contains_folded_congr same

end CharClass

/-! ## Lines with the same letters -/

section SameLetters

variable {first second : Line}

theorem Line.SameLetters.size_eq (same : first.SameLetters second) :
    first.size = second.size := by
  simpa using same.length_eq

/-- What a test of letters answers at a position is the same for both lines. -/
theorem Line.SameLetters.any_charAt?_eq
    {test : Char → Bool}
    (letters : ∀ {char other}, SameLetter char other → test char = test other)
    (same : first.SameLetters second)
    (position : Nat) :
    (first.charAt? position).any test = (second.charAt? position).any test := by
  by_cases inside : position < first.size
  · have alsoInside : position < second.size := same.size_eq ▸ inside
    have form := List.Forall₂.get same (by simpa using inside) (by simpa using alsoInside)
    simpa [Line.charAt?, inside, alsoInside] using letters form
  · have outside : ¬position < second.size := same.size_eq ▸ inside
    simp [Line.charAt?, inside, outside]

theorem Line.SameLetters.hasAt_eq
    {chars : CharSet}
    (ignores : chars.toClass.ignoresCase = true)
    (same : first.SameLetters second)
    (position : Nat) :
    first.hasAt chars position = second.hasAt chars position :=
  same.any_charAt?_eq
    (fun letters => by simpa using CharClass.contains_congr ignores letters) position

theorem Assertion.holds_congr
    (condition : Assertion)
    (same : first.SameLetters second)
    (position : Nat) :
    condition.holds first position = condition.holds second position := by
  have after : ∀ position, wordAt first position = wordAt second position :=
    same.any_charAt?_eq Text.isWord_congr
  have before : wordBefore first position = wordBefore second position := by
    cases position with
    | zero => rfl
    | succ previous => exact after previous
  have lineEnd : ∀ char ∈ ['\n', '\r'], ∀ position,
      (first.charAt? position = some char) = (second.charAt? position = some char) := by
    intro char listed position
    have caseless : ∀ char ∈ ['\n', '\r'], ∀ form ∈ Text.otherForms,
        (form == char) = (Text.smallForm form == char) := by decide
    have alike : (first.charAt? position).any (· == char) =
        (second.charAt? position).any (· == char) :=
      same.any_charAt?_eq
        (fun letters => Text.eq_of_sameLetter (caseless char listed) letters) position
    cases early : first.charAt? position <;> cases late : second.charAt? position <;>
      simp_all
  have lineFeed := lineEnd '\n' (by simp)
  have carriageReturn := lineEnd '\r' (by simp)
  cases condition <;>
    simp only [holds, same.size_eq, after, before, lineFeed, carriageReturn]

end SameLetters

/-! ## Expressions -/

namespace Regex

/-- Whether no class of an expression tells the forms of a letter apart. -/
def ignoresCase : Regex → Bool
  | .empty => true
  | .set chars => chars.toClass.ignoresCase
  | .assertion _ => true
  | .cat first second => first.ignoresCase && second.ignoresCase
  | .alt first second => first.ignoresCase && second.ignoresCase
  | .iterate body _ _ _ => body.ignoresCase
  | .group _ body => body.ignoresCase
  | .look _ _ body => body.ignoresCase
  | .backref _ => true
  | .once body => body.ignoresCase

variable {first second : Line} {regex : Regex}

theorem matches_set_iff_hasAt
    {line : Line}
    {chars : CharSet}
    {start stop : Nat} :
    (set chars).Matches line start stop ↔
      stop = start + 1 ∧ line.hasAt chars start = true := by
  simp only [Matches, Line.hasAt, Option.any_eq_true]

/-- An expression that does not tell the forms of a letter apart matches the same parts
of lines with the same letters. -/
theorem matches_congr
    (ignores : regex.ignoresCase = true)
    (same : first.SameLetters second)
    {start stop : Nat} :
    regex.Matches first start stop ↔ regex.Matches second start stop := by
  induction regex generalizing start stop with
  | empty => exact Iff.rfl
  | set chars =>
      rw [matches_set_iff_hasAt, matches_set_iff_hasAt, same.hasAt_eq ignores]
  | assertion condition => rw [Matches, Matches, condition.holds_congr same]
  | cat early late earlyHypothesis lateHypothesis =>
      simp only [ignoresCase, Bool.and_eq_true] at ignores
      simp only [Matches, earlyHypothesis ignores.1, lateHypothesis ignores.2]
  | alt left right leftHypothesis rightHypothesis =>
      simp only [ignoresCase, Bool.and_eq_true] at ignores
      simp only [Matches, leftHypothesis ignores.1, rightHypothesis ignores.2]
  | iterate body low high greedy inductionHypothesis =>
      have copies : body.Matches first = body.Matches second := by
        funext start stop
        exact propext (inductionHypothesis ignores)
      rw [matches_iterate, matches_iterate, copies]
  | group index body inductionHypothesis => exact inductionHypothesis ignores
  | look side negated body inductionHypothesis =>
      cases side <;> simp only [Matches, inductionHypothesis ignores]
  | backref index => exact Iff.rfl
  | once body inductionHypothesis => exact Iff.rfl

/-- An expression that does not tell the forms of a letter apart occurs in both of two
lines with the same letters or in neither. -/
theorem occurs_congr
    (ignores : regex.ignoresCase = true)
    (same : first.SameLetters second) :
    regex.Occurs first ↔ regex.Occurs second := by
  simp only [Occurs, matches_congr ignores same, same.size_eq]

end Regex
end Pattern
end ScriptAudit
