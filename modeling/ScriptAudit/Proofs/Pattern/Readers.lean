import Mathlib.Data.List.TakeDrop
import ScriptAudit.Pattern.Parser

/-!
# What the readers leave

Every reader of a part of a pattern takes characters from its front and leaves the rest:
what it returns to be read next is an end of what it was given. So whatever is read
later stands in the pattern as it was written.
-/

namespace ScriptAudit
namespace Pattern
namespace Parser

variable {dialect : Dialect} {flags : Flags} {chars rest : List Char}

theorem suffix_cons_cons (first second : Char) (rest : List Char) :
    rest <:+ first :: second :: rest :=
  (List.suffix_cons second rest).trans (List.suffix_cons first _)

theorem suffix_of_span
    {test : Char → Bool}
    {front : List Char}
    (cut : chars.span test = (front, rest)) :
    rest <:+ chars := by
  rw [List.span_eq_takeWhile_dropWhile, Prod.mk.injEq] at cut
  exact cut.2 ▸ List.dropWhile_suffix test

/-- A sign in front of a text may be taken or not be there. -/
theorem suffix_of_dropIf (isSign : Bool) (chars : List Char) :
    (if isSign = true then chars.drop 1 else chars) <:+ chars := by
  cases isSign with
  | true => exact List.drop_suffix 1 chars
  | false => exact List.suffix_rfl

/-! ## Gaps -/

theorem suffix_of_takeSpaced
    (verbose : Bool)
    (test : Char → Bool)
    (limit : Nat)
    (inComment : Bool)
    (chars : List Char) :
    (takeSpaced verbose test limit inComment chars).2 <:+ chars := by
  fun_induction takeSpaced verbose test limit inComment chars with
  | case1 => exact List.suffix_rfl
  | case2 _ char rest inductionHypothesis
  | case3 _ char rest _ inductionHypothesis
  | case4 _ char rest _ _ inductionHypothesis =>
      exact inductionHypothesis.trans (List.suffix_cons char rest)
  | case6 _ _ _ _ _ _ _ _ taken inductionHypothesis =>
      rw [taken] at inductionHypothesis
      exact inductionHypothesis.trans (List.suffix_cons _ _)
  | _ => exact List.suffix_rfl

theorem suffix_of_takeSpaced_eq
    {verbose : Bool}
    {test : Char → Bool}
    {limit : Nat}
    {taken : List Char}
    (cut : takeSpaced verbose test limit false chars = (taken, rest)) :
    rest <:+ chars := by
  have left := suffix_of_takeSpaced verbose test limit false chars
  rwa [cut] at left

theorem suffix_of_skipBlanks (verbose : Bool) (chars : List Char) :
    skipBlanks verbose chars <:+ chars :=
  suffix_of_takeSpaced verbose _ 0 false chars

theorem suffix_of_skipRemarks?
    {verbose : Bool}
    {place : Remark}
    (skipped : skipRemarks? verbose place chars = some rest) :
    rest <:+ chars := by
  fun_induction skipRemarks? verbose place chars with
  | case1 | case5 | case6 =>
      cases skipped
      exact List.suffix_rfl
  | case2 _ inductionHypothesis =>
      exact ((inductionHypothesis skipped).trans (suffix_cons_cons _ _ _)).trans
        (List.suffix_cons _ _)
  | case8 => cases skipped
  | case10 _ _ inductionHypothesis =>
      exact (inductionHypothesis skipped).trans (suffix_cons_cons _ _ _)
  | case3 _ _ _ _ inductionHypothesis
  | case4 _ _ _ _ _ inductionHypothesis
  | case7 _ _ inductionHypothesis
  | case9 _ inductionHypothesis
  | case11 _ _ _ _ inductionHypothesis =>
      exact (inductionHypothesis skipped).trans (List.suffix_cons _ _)

theorem suffix_of_skip? (skipped : skip? dialect flags chars = some rest) :
    rest <:+ chars := by
  cases dialect with
  | linear =>
      cases skipped
      exact suffix_of_skipBlanks _ _
  | backtracking => exact suffix_of_skipRemarks? skipped

/-! ## Escapes -/

theorem suffix_of_readNumber?
    {number : Nat}
    (read : readNumber? chars = some (number, rest)) :
    rest <:+ chars := by
  obtain ⟨value, _, same⟩ := Option.map_eq_some_iff.mp read
  cases same
  exact suffix_of_span rfl

theorem suffix_of_readCode?
    {length : Nat}
    {char : Char}
    (read : readCode? dialect flags length chars = some (char, rest)) :
    rest <:+ chars := by
  have behindGap := suffix_of_skipBlanks (opensEscapes dialect flags) chars
  unfold readCode? at read
  dsimp only at read
  split at read
  · rename_i inner opened
    rw [opened] at behindGap
    split at read
    · rename_i cut
      obtain ⟨_, _, same⟩ := Option.map_eq_some_iff.mp read
      cases same
      exact (((List.suffix_cons _ _).trans (suffix_of_takeSpaced_eq cut)).trans
        (List.suffix_cons _ _)).trans behindGap
    · cases read
  · split at read
    · obtain ⟨_, _, same⟩ := Option.map_eq_some_iff.mp read
      cases same
      exact (suffix_of_takeSpaced _ _ _ _ _).trans behindGap
    · cases read

theorem suffix_of_readPropertyName?
    {name : List Char}
    (read : readPropertyName? dialect flags chars = some (name, rest)) :
    rest <:+ chars := by
  have behindGap := suffix_of_skipBlanks (opensEscapes dialect flags) chars
  unfold readPropertyName? at read
  dsimp only at read
  split at read
  · rename_i inner opened
    rw [opened] at behindGap
    split at read
    · rename_i cut
      cases read
      exact (((List.suffix_cons _ _).trans (suffix_of_takeSpaced_eq cut)).trans
        (List.suffix_cons _ _)).trans behindGap
    · cases read
  · cases read
  · rename_i found
    cases read
    rw [found] at behindGap
    exact (List.suffix_cons _ _).trans behindGap
  · cases read

theorem suffix_of_readProperty?
    {negated : Bool}
    {members : CharClass}
    (read : readProperty? dialect flags negated chars = some (members, rest)) :
    rest <:+ chars := by
  obtain ⟨⟨name, left⟩, named, found⟩ := Option.bind_eq_some_iff.mp read
  obtain ⟨_, _, same⟩ := Option.bind_eq_some_iff.mp found
  cases same
  exact suffix_of_readPropertyName? named

theorem suffix_of_readBoundary?
    {letter : Char}
    {condition found : Assertion}
    (read : readBoundary? dialect flags letter condition chars = some (found, rest)) :
    rest <:+ chars := by
  unfold readBoundary? at read
  split at read
  · cases read
  · cases read
  · split at read
    · cases read
      exact List.suffix_rfl
    · rename_i cut
      obtain ⟨_, _, same⟩ := Option.map_eq_some_iff.mp read
      cases same
      exact ((List.suffix_cons _ _).trans (suffix_of_takeSpaced_eq cut)).trans
        (List.suffix_cons _ _)
    · cases read
  · cases read
    exact List.suffix_rfl

theorem suffix_of_readBackref?
    {symbol : Symbol}
    (read : readBackref? dialect chars = some (symbol, rest)) :
    rest <:+ chars := by
  cases dialect with
  | linear => cases read
  | backtracking =>
      obtain ⟨⟨index, left⟩, number, same⟩ := Option.map_eq_some_iff.mp read
      cases same
      exact suffix_of_readNumber? number

theorem suffix_of_readEscape?
    {symbol : Symbol}
    (read : readEscape? dialect flags chars = some (symbol, rest)) :
    rest <:+ chars := by
  unfold readEscape? at read
  split at read
  · cases read
  · rename_i char behind
    have single : behind <:+ char :: behind := List.suffix_cons char behind
    split at read
    · exact suffix_of_readBackref? read
    · split at read
      · obtain ⟨⟨found, left⟩, code, same⟩ := Option.map_eq_some_iff.mp read
        cases same
        exact (suffix_of_readCode? code).trans single
      · split at read
        · obtain ⟨⟨members, left⟩, property, same⟩ := Option.map_eq_some_iff.mp read
          cases same
          exact (suffix_of_readProperty? property).trans single
        · split at read
          · cases read
            exact single
          · split at read
            · obtain ⟨⟨condition, left⟩, boundary, same⟩ := Option.map_eq_some_iff.mp read
              cases same
              exact (suffix_of_readBoundary? boundary).trans single
            · split at read
              · cases read
                exact single
              · split at read
                · cases read
                  exact single
                · cases read

/-! ## Bracketed classes -/

theorem suffix_of_readMember?
    {symbol : Symbol}
    (read : readMember? flags chars = some (symbol, rest)) :
    rest <:+ chars := by
  unfold readMember? at read
  split at read
  · cases read
  · exact (suffix_of_readEscape? read).trans (List.suffix_cons _ _)
  · cases read
    exact List.suffix_cons _ _

theorem suffix_of_readRange?
    {members : CharClass}
    (read : readRange? flags chars = some (members, rest)) :
    rest <:+ chars := by
  unfold readRange? at read
  obtain ⟨⟨first, behind⟩, member, next⟩ := Option.bind_eq_some_iff.mp read
  have left : behind <:+ chars := suffix_of_readMember? member
  dsimp only at next
  split at next
  · rename_i inner dash
    have further : inner <:+ chars :=
      ((List.suffix_cons _ _).trans
        (dash ▸ suffix_of_skipBlanks flags.verbose behind)).trans left
    split at next
    · split at next <;> cases next <;> exact left
    · obtain ⟨⟨last, final⟩, lastMember, range⟩ := Option.bind_eq_some_iff.mp next
      have later : final <:+ chars :=
        ((suffix_of_readMember? lastMember).trans
          (suffix_of_skipBlanks _ _)).trans further
      split at range
      · split at range
        · cases range
          exact later
        · cases range
      · cases range
  · split at next <;> cases next <;> exact left

theorem suffix_of_readAsciiClass?
    {fold : Bool}
    {members : CharClass}
    (read : readAsciiClass? fold chars = some (members, rest)) :
    rest <:+ chars := by
  unfold readAsciiClass? at read
  split at read
  · rename_i named
    dsimp only at read
    have behindSign := suffix_of_dropIf (named.head? == some '^') named
    split at read
    · rename_i cut
      obtain ⟨_, _, same⟩ := Option.map_eq_some_iff.mp read
      cases same
      exact (((suffix_cons_cons _ _ _).trans (suffix_of_span cut)).trans behindSign).trans
        (List.suffix_cons _ _)
    · cases read
  · cases read

/-- A class and the members in it are read by turns, each with less fuel. -/
theorem suffix_of_readBracket
    (flags : Flags)
    (fuel : Nat) :
    (∀ {chars rest : List Char} {inner : CharClass},
      readBracket? flags fuel chars = some (inner, rest) → rest <:+ chars) ∧
    (∀ {members : Members} {chars rest : List Char} {inner : CharClass},
      readMembers? flags fuel members chars = some (inner, rest) → rest <:+ chars) := by
  induction fuel with
  | zero => exact ⟨nofun, nofun⟩
  | succ fuel inductionHypothesis =>
      obtain ⟨ofBracket, ofMembers⟩ := inductionHypothesis
      constructor
      · intro chars rest inner read
        simp only [readBracket?] at read
        have behindGap := suffix_of_skipBlanks flags.verbose chars
        generalize skipBlanks flags.verbose chars = opened at read behindGap
        have behindSign :=
          (suffix_of_dropIf (opened.head? == some '^') opened).trans behindGap
        generalize (if (opened.head? == some '^') = true
          then opened.drop 1 else opened) = body at read behindSign
        have behindDashes :=
          (suffix_of_takeSpaced flags.verbose (· == '-') body.length false body).trans
            behindSign
        generalize takeSpaced flags.verbose (· == '-') body.length false body = dashes
          at read behindDashes
        obtain ⟨⟨found, left⟩, listed, same⟩ := Option.map_eq_some_iff.mp read
        cases same
        split at listed
        · rename_i closed
          rw [closed] at behindDashes
          exact (ofMembers listed).trans ((List.suffix_cons _ _).trans behindDashes)
        · exact (ofMembers listed).trans behindDashes
      · intro members chars rest inner read
        simp only [readMembers?] at read
        have behindGap := suffix_of_skipBlanks flags.verbose chars
        generalize skipBlanks flags.verbose chars = opened at read behindGap
        refine List.IsSuffix.trans ?_ behindGap
        split at read
        · cases read
        · cases read
          exact List.suffix_cons _ _
        · split at read
          · rename_i nested
            rcases Option.or_eq_some_iff.mp nested with ascii | ⟨_, bracket⟩
            · exact (ofMembers read).trans
                ((suffix_of_readAsciiClass? ascii).trans (List.suffix_cons _ _))
            · exact (ofMembers read).trans
                ((ofBracket bracket).trans (List.suffix_cons _ _))
          · cases read
        · exact (ofMembers read).trans (suffix_cons_cons _ _ _)
        · exact (ofMembers read).trans (suffix_cons_cons _ _ _)
        · exact (ofMembers read).trans (suffix_cons_cons _ _ _)
        · split at read
          · rename_i range
            exact (ofMembers read).trans (suffix_of_readRange? range)
          · cases read

theorem suffix_of_rewriteEscape?
    {text : List Char}
    (read : rewriteEscape? flags chars = some (text, rest)) :
    rest <:+ chars := by
  unfold rewriteEscape? at read
  split at read
  · cases read
  · rename_i char behind
    have single : behind <:+ char :: behind := List.suffix_cons char behind
    split at read
    iterate 5
      · cases read
        exact single
    · split at read
      · rename_i escaped
        cases read
        exact suffix_of_readEscape? escaped
      · rename_i escaped
        cases read
        exact suffix_of_readEscape? escaped
      · cases read

theorem suffix_of_rewriteClass?
    {fuel nested : Nat}
    {text : List Char}
    (read : rewriteClass? flags fuel nested chars = some (text, rest)) :
    rest <:+ chars := by
  induction fuel generalizing nested chars text with
  | zero => cases read
  | succ fuel inductionHypothesis =>
      simp only [rewriteClass?] at read
      split at read
      · cases read
      · obtain ⟨⟨front, left⟩, escaped, read⟩ := Option.bind_eq_some_iff.mp read
        obtain ⟨_, further, same⟩ := Option.map_eq_some_iff.mp read
        cases same
        exact ((inductionHypothesis further).trans
          (suffix_of_rewriteEscape? escaped)).trans (List.suffix_cons _ _)
      · obtain ⟨_, further, same⟩ := Option.map_eq_some_iff.mp read
        cases same
        exact (inductionHypothesis further).trans (List.suffix_cons _ _)
      · split at read
        · cases read
          exact List.suffix_cons _ _
        · obtain ⟨_, further, same⟩ := Option.map_eq_some_iff.mp read
          cases same
          exact (inductionHypothesis further).trans (List.suffix_cons _ _)
      · obtain ⟨_, further, same⟩ := Option.map_eq_some_iff.mp read
        cases same
        exact (inductionHypothesis further).trans (List.suffix_cons _ _)

theorem suffix_of_readClass?
    {members : CharClass}
    (read : readClass? dialect flags chars = some (members, rest)) :
    rest <:+ chars := by
  cases dialect with
  | linear => exact (suffix_of_readBracket flags _).1 read
  | backtracking =>
      obtain ⟨⟨text, left⟩, rewritten, read⟩ := Option.bind_eq_some_iff.mp read
      obtain ⟨⟨_, _⟩, _, closed⟩ := Option.bind_eq_some_iff.mp read
      dsimp only at closed
      split at closed
      · cases closed
        exact (suffix_of_rewriteClass? rewritten).trans (List.drop_suffix _ chars)
      · cases closed

/-! ## Flags, names and bounds -/

theorem suffix_of_skipInFlags?
    {seen found : List Char}
    (skipped : skipInFlags? dialect flags seen chars = some (found, rest)) :
    rest <:+ chars := by
  cases dialect with
  | linear =>
      cases skipped
      exact List.suffix_rfl
  | backtracking =>
      obtain ⟨_, gap, same⟩ := Option.map_eq_some_iff.mp skipped
      cases same
      exact suffix_of_skip? gap

theorem suffix_of_readFlags?
    {fuel : Nat}
    {found : Flags}
    {seen : List Char}
    {closed : Bool}
    (read : readFlags? dialect fuel flags seen chars = some (found, closed, rest)) :
    rest <:+ chars := by
  induction fuel generalizing flags seen chars with
  | zero => cases read
  | succ fuel inductionHypothesis =>
      rw [readFlags?] at read
      have behindLetter : ∀ {now letter behind},
          skipInFlags? dialect flags seen chars = some (now, letter :: behind) →
            behind <:+ chars :=
        fun skipped => (List.suffix_cons _ _).trans (suffix_of_skipInFlags? skipped)
      split at read
      · rename_i skipped
        split at read
        · cases read
          exact behindLetter skipped
        · cases read
      · rename_i skipped
        split at read
        · cases read
          exact behindLetter skipped
        · cases read
      · rename_i skipped
        split at read
        · cases read
        · split at read
          · exact (inductionHypothesis read).trans (behindLetter skipped)
          · split at read
            · exact (inductionHypothesis read).trans (behindLetter skipped)
            · cases read
      · cases read

theorem suffix_of_readName?
    {name : List Char}
    (read : readName? dialect chars = some (name, rest)) :
    rest <:+ chars := by
  unfold readName? at read
  split at read
  · cases read
  · split at read
    · split at read
      · rename_i cut
        cases read
        exact (List.suffix_cons _ _).trans (suffix_of_span cut)
      · cases read
    · cases read

theorem suffix_of_readCount?
    {count : Nat}
    (read : readCount? dialect flags chars = some (count, rest)) :
    rest <:+ chars := by
  cases dialect with
  | linear =>
      obtain ⟨value, _, same⟩ := Option.map_eq_some_iff.mp read
      cases same
      exact ((List.dropWhile_suffix _).trans (suffix_of_takeSpaced _ _ _ _ _)).trans
        (List.dropWhile_suffix _)
  | backtracking => exact suffix_of_readNumber? (Option.filter_eq_some_iff.mp read).1

theorem suffix_of_readUpper?
    {high : Option Nat}
    (read : readUpper? dialect flags chars = some (high, rest)) :
    rest <:+ chars := by
  obtain ⟨opened, gap, read⟩ := Option.bind_eq_some_iff.mp read
  have behindGap := suffix_of_skip? gap
  split at read
  · cases read
    exact (List.suffix_cons _ _).trans behindGap
  · obtain ⟨⟨bound, left⟩, count, read⟩ := Option.bind_eq_some_iff.mp read
    obtain ⟨closing, lastGap, read⟩ := Option.bind_eq_some_iff.mp read
    have behindCount :=
      ((suffix_of_skip? lastGap).trans (suffix_of_readCount? count)).trans behindGap
    split at read
    · cases read
      exact (List.suffix_cons _ _).trans behindCount
    · cases read

theorem suffix_of_readLower?
    {low : Nat}
    (read : readLower? dialect flags chars = some (low, rest)) :
    rest <:+ chars := by
  unfold readLower? at read
  split at read
  · rename_i count
    cases read
    exact suffix_of_readCount? count
  · cases read
  · split at read
    · cases read
      exact List.suffix_rfl
    · cases read

theorem suffix_of_readBounds?
    {low : Nat}
    {high : Option Nat}
    (read : readBounds? dialect flags chars = some (low, high, rest)) :
    rest <:+ chars := by
  obtain ⟨opened, gap, read⟩ := Option.bind_eq_some_iff.mp read
  obtain ⟨⟨lower, left⟩, count, read⟩ := Option.bind_eq_some_iff.mp read
  obtain ⟨closing, lastGap, read⟩ := Option.bind_eq_some_iff.mp read
  have behindCount := ((suffix_of_skip? lastGap).trans (suffix_of_readLower? count)).trans
    (suffix_of_skip? gap)
  split at read
  · cases read
    exact (List.suffix_cons _ _).trans behindCount
  · obtain ⟨⟨bound, behind⟩, upper, same⟩ := Option.map_eq_some_iff.mp read
    cases same
    exact ((suffix_of_readUpper? upper).trans (List.suffix_cons _ _)).trans behindCount
  · cases read

end Parser
end Pattern
end ScriptAudit
