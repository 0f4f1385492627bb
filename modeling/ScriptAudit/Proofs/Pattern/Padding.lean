import ScriptAudit.Proofs.Pattern.Occurrence

/-!
# Padded lines

What is put in front of a line shifts the matches of an expression that reads forward
only: no anchor and no lookbehind tells it what stands before. Bounds of words do, so
the text in front must not end in a word character for them. What is put behind a line
leaves the matches alone, unless an anchor or a lookahead reads on, or a bound of a word
stands at the end of a match.
-/

namespace ScriptAudit
namespace Pattern

variable {front line behind : Line}

/-- A line is empty or does not end in a word character. -/
def Line.EndsOffWord (line : Line) : Prop :=
  ∀ last ∈ line.back?, Text.isWord last = false

instance (line : Line) : Decidable line.EndsOffWord :=
  Option.decidableForallMem line.back?

/-! ## Text in front -/

theorem Line.charAt?_append_front (position : Nat) :
    Line.charAt? (front ++ line) (front.size + position) = line.charAt? position := by
  simp [Line.charAt?, Array.getElem?_append_right]

theorem wordAt_append_front (position : Nat) :
    wordAt (front ++ line) (front.size + position) = wordAt line position := by
  rw [wordAt, wordAt, Line.charAt?_append_front]

theorem wordBefore_append_front
    (offWord : front.EndsOffWord)
    (position : Nat) :
    wordBefore (front ++ line) (front.size + position) = wordBefore line position := by
  cases position with
  | succ previous => exact wordAt_append_front previous
  | zero =>
      rw [Nat.add_zero]
      cases size : front.size with
      | zero => rfl
      | succ previous =>
          have last : Line.charAt? (front ++ line) previous = front.back? := by
            simp [Line.charAt?, Array.back?, size, Array.getElem?_append_left]
          rw [wordBefore, wordBefore, last]
          cases found : front.back? with
          | none => rfl
          | some char => exact offWord char found

/-- The bounds of words are where they were, behind text that does not end in a word. -/
theorem Assertion.holds_append_front
    {condition : Assertion}
    (wordwise : condition.isWordwise = true)
    (offWord : front.EndsOffWord)
    (position : Nat) :
    condition.holds (front ++ line) (front.size + position) =
      condition.holds line position := by
  have before : wordBefore (front ++ line) (front.size + position) =
      wordBefore line position :=
    wordBefore_append_front offWord position
  have after : wordAt (front ++ line) (front.size + position) = wordAt line position :=
    wordAt_append_front position
  cases condition <;> simp_all [isWordwise, holds]

/-- A chain of steps that are shifted is shifted as a whole. -/
theorem chain_shift_iff
    {step shifted : Nat → Nat → Prop}
    {offset count start stop : Nat}
    (shifts : ∀ {start stop}, shifted (offset + start) stop ↔
      ∃ reached, stop = offset + reached ∧ step start reached) :
    Chain shifted count (offset + start) stop ↔
      ∃ reached, stop = offset + reached ∧ Chain step count start reached := by
  induction count generalizing start with
  | zero => simp [eq_comm]
  | succ count inductionHypothesis =>
      simp only [chain_succ, shifts]
      constructor
      · rintro ⟨_, ⟨middle, rfl, here⟩, later⟩
        obtain ⟨reached, rfl, chain⟩ := inductionHypothesis.mp later
        exact ⟨reached, rfl, middle, here, chain⟩
      · rintro ⟨reached, rfl, middle, here, chain⟩
        exact ⟨offset + middle, ⟨middle, rfl, here⟩,
          inductionHypothesis.mpr ⟨reached, rfl, chain⟩⟩

namespace Regex

variable {regex : Regex} {start stop : Nat}

/-- Whether an expression cannot tell what stands in front of its matches, except by the
bounds of words where they are allowed. -/
def readsForward (words : Bool) : Regex → Bool
  | .empty => true
  | .set _ => true
  | .assertion condition => words && condition.isWordwise
  | .cat first second => first.readsForward words && second.readsForward words
  | .alt first second => first.readsForward words && second.readsForward words
  | .iterate body _ _ _ => body.readsForward words
  | .group _ body => body.readsForward words
  | .look .ahead _ body => body.readsForward words
  | .look .behind _ _ => false
  | .backref _ => false
  | .once _ => false

/-- The matches in a line are those behind the text in front of it. -/
theorem matches_append_front_iff
    {words : Bool}
    (forward : regex.readsForward words = true)
    (offWord : words = true → front.EndsOffWord) :
    regex.Matches (front ++ line) (front.size + start) stop ↔
      ∃ reached, stop = front.size + reached ∧ regex.Matches line start reached := by
  induction regex generalizing start stop with
  | empty => simp [Matches, eq_comm]
  | set chars =>
      simp only [Matches, Line.charAt?_append_front]
      constructor
      · rintro ⟨rfl, found⟩
        exact ⟨start + 1, rfl, rfl, found⟩
      · rintro ⟨_, rfl, rfl, found⟩
        exact ⟨rfl, found⟩
  | assertion condition =>
      simp only [readsForward, Bool.and_eq_true] at forward
      simp only [Matches, condition.holds_append_front forward.2 (offWord forward.1)]
      constructor
      · rintro ⟨rfl, holds⟩
        exact ⟨start, rfl, rfl, holds⟩
      · rintro ⟨_, rfl, rfl, holds⟩
        exact ⟨rfl, holds⟩
  | cat first second firstHypothesis secondHypothesis =>
      simp only [readsForward, Bool.and_eq_true] at forward
      simp only [Matches, firstHypothesis forward.1]
      constructor
      · rintro ⟨_, ⟨middle, rfl, early⟩, late⟩
        obtain ⟨reached, rfl, shifted⟩ := (secondHypothesis forward.2).mp late
        exact ⟨reached, rfl, middle, early, shifted⟩
      · rintro ⟨reached, rfl, middle, early, late⟩
        exact ⟨front.size + middle, ⟨middle, rfl, early⟩,
          (secondHypothesis forward.2).mpr ⟨reached, rfl, late⟩⟩
  | alt first second firstHypothesis secondHypothesis =>
      simp only [readsForward, Bool.and_eq_true] at forward
      simp only [Matches, firstHypothesis forward.1, secondHypothesis forward.2,
        ← exists_or, ← and_or_left]
  | iterate body low high greedy inductionHypothesis =>
      simp only [Matches, chain_shift_iff (inductionHypothesis forward)]
      constructor
      · rintro ⟨count, enough, notMore, reached, rfl, chain⟩
        exact ⟨reached, rfl, count, enough, notMore, chain⟩
      · rintro ⟨reached, rfl, count, enough, notMore, chain⟩
        exact ⟨count, enough, notMore, reached, rfl, chain⟩
  | group index body inductionHypothesis => exact inductionHypothesis forward
  | look side negated body inductionHypothesis =>
      cases side with
      | behind => cases forward
      | ahead =>
          have seen : (∃ reached,
              body.Matches (front ++ line) (front.size + start) reached) ↔
              ∃ reached, body.Matches line start reached := by
            simp only [inductionHypothesis forward]
            constructor
            · rintro ⟨_, reached, rfl, isMatch⟩
              exact ⟨reached, isMatch⟩
            · rintro ⟨reached, isMatch⟩
              exact ⟨_, reached, rfl, isMatch⟩
          simp only [Matches, seen]
          constructor
          · rintro ⟨rfl, looks⟩
            exact ⟨start, rfl, rfl, looks⟩
          · rintro ⟨_, rfl, rfl, looks⟩
            exact ⟨rfl, looks⟩
  | backref index => cases forward
  | once body inductionHypothesis => cases forward

/-- What occurs in a line occurs behind text in front of it. -/
theorem Occurs.append_front
    {words : Bool}
    (occurs : regex.Occurs line)
    (forward : regex.readsForward words = true)
    (offWord : words = true → front.EndsOffWord) :
    regex.Occurs (front ++ line) := by
  obtain ⟨start, stop, ordered, within, isMatch⟩ := occurs
  refine ⟨front.size + start, front.size + stop, by omega, by simpa using within, ?_⟩
  exact (matches_append_front_iff forward offWord).mpr ⟨stop, rfl, isMatch⟩

end Regex

/-! ## Text behind -/

theorem Line.charAt?_append_behind
    {position : Nat}
    (inside : position < line.size) :
    Line.charAt? (line ++ behind) position = line.charAt? position := by
  simp [Line.charAt?, Array.getElem?_append_left inside]

theorem wordAt_append_behind
    {position : Nat}
    (inside : position < line.size) :
    wordAt (line ++ behind) position = wordAt line position := by
  rw [wordAt, wordAt, Line.charAt?_append_behind inside]

/-- The bounds of words are where they were, but for the end of the line. -/
theorem Assertion.holds_append_behind
    {condition : Assertion}
    {position : Nat}
    (wordwise : condition.isWordwise = true)
    (inside : position < line.size) :
    condition.holds (line ++ behind) position = condition.holds line position := by
  have after : wordAt (line ++ behind) position = wordAt line position :=
    wordAt_append_behind inside
  have before : wordBefore (line ++ behind) position = wordBefore line position := by
    cases position with
    | zero => rfl
    | succ previous => exact wordAt_append_behind (Nat.lt_of_succ_lt inside)
  cases condition <;> simp_all [isWordwise, holds]

namespace Regex

variable {regex : Regex} {start stop : Nat}

/-- An expression that takes at least one character does so in every match. -/
theorem Matches.lt_of_consumes
    (isMatch : regex.Matches line start stop)
    (valid : regex.boundsValid = true)
    (consumes : regex.consumes = true) :
    start < stop := by
  induction regex generalizing start stop with
  | set chars =>
      obtain ⟨rfl, _⟩ := isMatch
      exact Nat.lt_succ_self start
  | cat first second firstHypothesis secondHypothesis =>
      simp only [boundsValid, Bool.and_eq_true] at valid
      obtain ⟨middle, early, late⟩ := isMatch
      rcases Bool.or_eq_true _ _ |>.mp consumes with firstConsumes | secondConsumes
      · exact Nat.lt_of_lt_of_le (firstHypothesis early valid.1 firstConsumes) late.le
      · exact Nat.lt_of_le_of_lt early.le (secondHypothesis late valid.2 secondConsumes)
  | alt first second firstHypothesis secondHypothesis =>
      simp only [boundsValid, Bool.and_eq_true] at valid
      simp only [Regex.consumes, Bool.and_eq_true] at consumes
      rcases isMatch with isFirst | isSecond
      · exact firstHypothesis isFirst valid.1 consumes.1
      · exact secondHypothesis isSecond valid.2 consumes.2
  | iterate body low high greedy inductionHypothesis =>
      simp only [Regex.consumes, Bool.and_eq_true, decide_eq_true_eq] at consumes
      obtain ⟨middle, count, here, later⟩ := isMatch.exists_copy valid consumes.2
      simp only [boundsValid, Bool.and_eq_true] at valid
      exact Nat.lt_of_lt_of_le (inductionHypothesis here valid.1.1 consumes.1)
        (later.le Matches.le)
  | group index body inductionHypothesis =>
      exact inductionHypothesis isMatch valid consumes
  | once body inductionHypothesis => exact isMatch.elim
  | _ => cases consumes

/-- Whether text behind a line leaves the matches of an expression in it alone. With
`followed`, more characters of the line are known to be matched behind it, so that the
bounds of words can be told. -/
def readsInside (followed : Bool) : Regex → Bool
  | .empty => true
  | .set _ => true
  | .assertion condition => followed && condition.isWordwise
  | .cat first second =>
      first.readsInside (followed || second.consumes) && second.readsInside followed
  | .alt first second => first.readsInside followed && second.readsInside followed
  | .iterate body _ _ _ => body.readsInside followed
  | .group _ body => body.readsInside followed
  | .look .. => false
  | .backref _ => false
  | .once _ => false

/-- The matches in a line are the same when text is put behind it. -/
theorem matches_append_behind_iff
    {followed : Bool}
    (valid : regex.boundsValid = true)
    (inside : regex.readsInside followed = true)
    (within : stop ≤ line.size)
    (follows : followed = true → stop < line.size) :
    regex.Matches (line ++ behind) start stop ↔ regex.Matches line start stop := by
  induction regex generalizing start stop followed with
  | empty => exact Iff.rfl
  | set chars =>
      refine and_congr_right ?_
      rintro rfl
      rw [Line.charAt?_append_behind (Nat.lt_of_succ_le within)]
  | assertion condition =>
      simp only [readsInside, Bool.and_eq_true] at inside
      refine and_congr_right ?_
      rintro rfl
      rw [condition.holds_append_behind inside.2 (follows inside.1)]
  | cat first second firstHypothesis secondHypothesis =>
      simp only [boundsValid, Bool.and_eq_true] at valid
      simp only [readsInside, Bool.and_eq_true] at inside
      simp only [Matches, secondHypothesis valid.2 inside.2 within follows]
      refine exists_congr fun middle => and_congr_left fun late => ?_
      have ordered := late.le
      refine firstHypothesis valid.1 inside.1 (by omega) fun more => ?_
      rcases Bool.or_eq_true _ _ |>.mp more with behindAll | consumes
      · exact Nat.lt_of_le_of_lt ordered (follows behindAll)
      · exact Nat.lt_of_lt_of_le (late.lt_of_consumes valid.2 consumes) within
  | alt first second firstHypothesis secondHypothesis =>
      simp only [boundsValid, Bool.and_eq_true] at valid
      simp only [readsInside, Bool.and_eq_true] at inside
      simp only [Matches, firstHypothesis valid.1 inside.1 within follows,
        secondHypothesis valid.2 inside.2 within follows]
  | iterate body low high greedy inductionHypothesis =>
      simp only [boundsValid, Bool.and_eq_true] at valid
      refine exists_congr fun count =>
        and_congr_right fun enough => and_congr_right fun notMore => ?_
      clear enough notMore
      -- no copy ends behind the match, so that what follows it is known as well
      induction count generalizing start with
      | zero => exact Iff.rfl
      | succ count later =>
          simp only [chain_succ, later]
          refine exists_congr fun middle => and_congr_left fun rest => ?_
          have ordered : middle ≤ stop := rest.le Matches.le
          exact inductionHypothesis valid.1.1 inside (by omega)
            fun more => Nat.lt_of_le_of_lt ordered (follows more)
  | group index body inductionHypothesis =>
      exact inductionHypothesis valid inside within follows
  | look side negated body inductionHypothesis => cases inside
  | backref index => cases inside
  | once body inductionHypothesis => cases inside

/-- What occurs in a line occurs in front of text behind it. -/
theorem Occurs.append_behind
    (occurs : regex.Occurs line)
    (valid : regex.boundsValid = true)
    (inside : regex.readsInside false = true) :
    regex.Occurs (line ++ behind) := by
  obtain ⟨start, stop, ordered, within, isMatch⟩ := occurs
  refine ⟨start, stop, ordered, ?_, ?_⟩
  · rw [Array.size_append]
    omega
  · exact (matches_append_behind_iff valid inside within (by simp)).mpr isMatch

/-! ## One character behind -/

/-- Whether every match of an expression ends in a character, and never in the given
one. -/
def endsWithout (char : Char) : Regex → Bool
  | .set chars => !chars.toClass.contains char
  | .cat _ second => second.endsWithout char
  | .alt first second => first.endsWithout char && second.endsWithout char
  | .group _ body => body.endsWithout char
  | _ => false

theorem Matches.exists_last
    {char : Char}
    (isMatch : regex.Matches line start stop)
    (ends : regex.endsWithout char = true) :
    ∃ last, stop = last + 1 ∧ line.charAt? last ≠ some char := by
  induction regex generalizing start stop with
  | set chars =>
      obtain ⟨rfl, other, found, contained⟩ := isMatch
      refine ⟨start, rfl, fun same => ?_⟩
      obtain rfl : other = char := Option.some.inj (found.symm.trans same)
      rw [CharSet.contains_eq] at contained
      rw [endsWithout, contained] at ends
      cases ends
  | cat first second _ secondHypothesis =>
      obtain ⟨middle, -, late⟩ := isMatch
      exact secondHypothesis late ends
  | alt first second firstHypothesis secondHypothesis =>
      simp only [endsWithout, Bool.and_eq_true] at ends
      rcases isMatch with isFirst | isSecond
      · exact firstHypothesis isFirst ends.1
      · exact secondHypothesis isSecond ends.2
  | group index body inductionHypothesis => exact inductionHypothesis isMatch ends
  | _ => cases ends

/-- A character in which no match ends makes no difference at the end of a line. -/
theorem occurs_push_iff
    {char : Char}
    (valid : regex.boundsValid = true)
    (inside : regex.readsInside false = true)
    (ends : regex.endsWithout char = true) :
    regex.Occurs (line.push char) ↔ regex.Occurs line := by
  rw [Array.push_eq_append]
  refine ⟨?_, fun occurs => occurs.append_behind valid inside⟩
  rintro ⟨start, stop, ordered, within, isMatch⟩
  obtain ⟨last, rfl, other⟩ := isMatch.exists_last ends
  have inLine : last + 1 ≤ line.size := by
    rw [Array.size_append] at within
    refine Nat.succ_le_of_lt
      (Nat.lt_of_le_of_ne (Nat.le_of_lt_succ within) fun atEnd => ?_)
    exact other (by simp [Line.charAt?, atEnd])
  exact ⟨start, last + 1, ordered, inLine,
    (matches_append_behind_iff valid inside inLine (by simp)).mp isMatch⟩

end Regex
end Pattern
end ScriptAudit
