import ScriptAudit.Proofs.Pattern.Meaning

/-!
# Expressions that need a visible character

Most parts of an expression may match blank characters, but it is enough if one part
that no match can do without matches none. Such an expression occurs in no blank line,
however long it is.
-/

namespace ScriptAudit

namespace Text

/-- The codes of the blank characters. -/
def blankCodes : List Nat :=
  [9, 10, 11, 12, 13, 0x20, 0x85, 0xA0, 0x1680] ++ (List.range 11).map (0x2000 + ·) ++
    [0x2028, 0x2029, 0x202F, 0x205F, 0x3000]

theorem mem_blankCodes_of_isBlank
    {char : Char}
    (blank : isBlank char = true) :
    char.toNat ∈ blankCodes := by
  simp only [isBlank, Bool.or_eq_true, Bool.and_eq_true, decide_eq_true_eq] at blank
  simp only [blankCodes, List.mem_append, List.mem_cons, List.not_mem_nil,
    or_false, List.mem_map, List.mem_range]
  by_cases space : 0x2000 ≤ char.toNat ∧ char.toNat ≤ 0x200A
  · exact .inl (.inr ⟨char.toNat - 0x2000, by omega, by omega⟩)
  · omega

/-- A blank character is no digit and no part of a word, and it has no case variants. -/
theorem isBlank_isolated
    {char : Char}
    (blank : isBlank char = true) :
    isDigit char = false ∧ isWord char = false ∧ caseVariants char = [] := by
  have ofCode : ∀ code ∈ blankCodes,
      isDigit (Char.ofNat code) = false ∧ isWord (Char.ofNat code) = false ∧
        caseVariants (Char.ofNat code) = [] := by
    decide +kernel
  have isolated := ofCode char.toNat (mem_blankCodes_of_isBlank blank)
  rwa [Char.ofNat_toNat] at isolated

end Text

namespace Pattern

namespace CharClass

/-- Whether a class is seen to contain no blank character. -/
def omitsBlanks : CharClass → Bool
  | .range low high => Text.blankCodes.all fun code => code < low || high < code
  | .blank => false
  | .digit => true
  | .word => true
  | .category _ => false
  | .union left right => left.omitsBlanks && right.omitsBlanks
  | .compl inner => inner = .blank
  | .folded inner => inner.omitsBlanks

theorem contains_eq_false_of_isBlank
    {members : CharClass}
    {char : Char}
    (omits : members.omitsBlanks = true)
    (blank : Text.isBlank char = true) :
    members.contains char = false := by
  induction members with
  | range low high =>
      have outside := List.all_eq_true.mp omits _ (Text.mem_blankCodes_of_isBlank blank)
      simp only [Bool.or_eq_true, decide_eq_true_eq] at outside
      simp only [contains, Bool.and_eq_false_iff, decide_eq_false_iff_not]
      omega
  | blank => cases omits
  | digit => exact (Text.isBlank_isolated blank).1
  | word => exact (Text.isBlank_isolated blank).2.1
  | category members => cases omits
  | union left right leftHypothesis rightHypothesis =>
      simp only [omitsBlanks, Bool.and_eq_true] at omits
      rw [contains_union, leftHypothesis omits.1, rightHypothesis omits.2, Bool.or_false]
  | compl inner _ =>
      obtain rfl : inner = .blank := of_decide_eq_true omits
      rw [contains_compl, contains, blank, Bool.not_true]
  | folded inner inductionHypothesis =>
      rw [contains, inductionHypothesis omits, (Text.isBlank_isolated blank).2.2]
      rfl

end CharClass

namespace Regex

variable {regex : Regex} {line : Line} {start stop : Nat}

/-- Whether every match of an expression takes a character that is not blank. -/
def needsVisible : Regex → Bool
  | .set chars => chars.toClass.omitsBlanks
  | .cat first second => first.needsVisible || second.needsVisible
  | .alt first second => first.needsVisible && second.needsVisible
  | .iterate body low _ _ => body.needsVisible && decide (0 < low)
  | .group _ body => body.needsVisible
  | _ => false

/-- An expression that needs a visible character matches no part of a line without one.
-/
theorem Matches.exists_visible
    (isMatch : regex.Matches line start stop)
    (valid : regex.boundsValid = true)
    (needs : regex.needsVisible = true) :
    ∃ char ∈ line, Text.isBlank char = false := by
  induction regex generalizing start stop with
  | set chars =>
      obtain ⟨-, char, found, contained⟩ := isMatch
      refine ⟨char, Array.mem_of_getElem? found, Bool.eq_false_iff.mpr fun blank => ?_⟩
      rw [CharSet.contains_eq, CharClass.contains_eq_false_of_isBlank needs blank]
        at contained
      cases contained
  | cat first second firstHypothesis secondHypothesis =>
      simp only [boundsValid, Bool.and_eq_true] at valid
      obtain ⟨middle, early, late⟩ := isMatch
      rcases Bool.or_eq_true _ _ |>.mp needs with firstNeeds | secondNeeds
      · exact firstHypothesis early valid.1 firstNeeds
      · exact secondHypothesis late valid.2 secondNeeds
  | alt first second firstHypothesis secondHypothesis =>
      simp only [boundsValid, Bool.and_eq_true] at valid
      simp only [needsVisible, Bool.and_eq_true] at needs
      rcases isMatch with isFirst | isSecond
      · exact firstHypothesis isFirst valid.1 needs.1
      · exact secondHypothesis isSecond valid.2 needs.2
  | iterate body low high greedy inductionHypothesis =>
      simp only [needsVisible, Bool.and_eq_true, decide_eq_true_eq] at needs
      obtain ⟨middle, count, here, -⟩ := isMatch.exists_copy valid needs.2
      simp only [boundsValid, Bool.and_eq_true] at valid
      exact inductionHypothesis here valid.1.1 needs.1
  | group index body inductionHypothesis => exact inductionHypothesis isMatch valid needs
  | _ => cases needs

/-- An expression that needs a visible character does not occur in a blank line. -/
theorem not_occurs_of_blank
    (valid : regex.boundsValid = true)
    (needs : regex.needsVisible = true)
    (blank : ∀ char ∈ line, Text.isBlank char = true) :
    ¬regex.Occurs line := by
  rintro ⟨start, stop, -, -, isMatch⟩
  obtain ⟨char, present, visible⟩ := isMatch.exists_visible valid needs
  rw [blank char present] at visible
  cases visible

end Regex
end Pattern
end ScriptAudit
