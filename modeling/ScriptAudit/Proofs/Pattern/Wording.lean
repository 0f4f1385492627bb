import Mathlib.Data.List.TakeWhile
import ScriptAudit.Pattern.Parser
import ScriptAudit.Proofs.Pattern.LetterCase
import ScriptAudit.Proofs.Pattern.Occurrence

/-!
# What an expression spells

A plain expression asks for nothing but characters. It matches a part of a line because
of the text there, wherever the text stands. A lookahead behind a plain expression only
asks how the rest of the line goes on; behind a greedy run it is idle if whatever it
looks for starts with a character that the run would have taken.
-/

namespace ScriptAudit
namespace Pattern

open Text (SameLetter)

/-! ## Texts in a line -/

/-- A text stands at a position of a line. -/
def Line.HasTextAt (line : Line) (start : Nat) (text : List Char) : Prop :=
  text <+: line.toList.drop start

section HasTextAt

variable {line : Line} {start : Nat} {text : List Char}

theorem Line.hasTextAt_nil : line.HasTextAt start [] := List.nil_prefix

theorem Line.hasTextAt_singleton_iff {char : Char} :
    line.HasTextAt start [char] ↔ line.charAt? start = some char := by
  rw [HasTextAt, charAt?, ← Array.getElem?_toList, ← List.head?_drop]
  cases line.toList.drop start with
  | nil => simp
  | cons first rest => simp [eq_comm]

theorem Line.hasTextAt_append_iff {early late : List Char} :
    line.HasTextAt start (early ++ late) ↔
      line.HasTextAt start early ∧ line.HasTextAt (start + early.length) late := by
  simp only [HasTextAt, ← List.drop_drop]
  constructor
  · rintro ⟨rest, found⟩
    rw [← found, List.append_assoc, List.drop_left]
    exact ⟨List.prefix_append .., List.prefix_append ..⟩
  · rintro ⟨⟨rest, found⟩, behind⟩
    rw [← found, List.drop_left] at behind
    rw [← found]
    exact (List.prefix_append_right_inj early).mpr behind

/-- A text stands at a position if the line can be cut around it there. -/
theorem Line.hasTextAt_iff_exists_cut (within : start ≤ line.size) :
    line.HasTextAt start text ↔
      ∃ before after, line.toList = before ++ (text ++ after) ∧
        before.length = start := by
  constructor
  · rintro ⟨after, found⟩
    exact ⟨line.toList.take start, after, by rw [found, List.take_append_drop],
      List.length_take_of_le (by simpa using within)⟩
  · rintro ⟨before, after, cut, rfl⟩
    rw [HasTextAt, cut, List.drop_left]
    exact List.prefix_append text after

end HasTextAt

namespace Regex

/-! ## Plain expressions -/

/-- Whether an expression asks for characters only. -/
def isPlain : Regex → Bool
  | .empty => true
  | .set _ => true
  | .assertion _ => false
  | .cat first second => first.isPlain && second.isPlain
  | .alt first second => first.isPlain && second.isPlain
  | .iterate body _ _ _ => body.isPlain
  | .group _ body => body.isPlain
  | .look .. => false
  | .backref _ => false
  | .once _ => false

/-- An expression stands for a text, as far as it asks for characters. -/
def Spells : Regex → List Char → Prop
  | .empty, text => text = []
  | .set chars, text => ∃ char, text = [char] ∧ chars.contains char
  | .cat first second, text =>
      ∃ early late, text = early ++ late ∧ first.Spells early ∧ second.Spells late
  | .alt first second, text => first.Spells text ∨ second.Spells text
  | .iterate body low high _, text =>
      ∃ pieces : List (List Char), text = pieces.flatten ∧
        min low (high.getD low) ≤ pieces.length ∧
        (∀ bound ∈ high, pieces.length ≤ bound) ∧
        ∀ piece ∈ pieces, body.Spells piece
  | .group _ body, text => body.Spells text
  | .assertion _, _ => False
  | .look .., _ => False
  | .backref _, _ => False
  | .once _, _ => False

variable {line : Line} {regex : Regex} {start stop : Nat}

/-- A chain of matches reads one piece of text after the other. -/
theorem chain_iff_exists_pieces
    (reads : ∀ {start stop}, regex.Matches line start stop ↔
      ∃ text, regex.Spells text ∧ line.HasTextAt start text ∧ stop = start + text.length)
    {count : Nat} :
    Chain (regex.Matches line) count start stop ↔
      ∃ pieces : List (List Char), pieces.length = count ∧
        (∀ piece ∈ pieces, regex.Spells piece) ∧ line.HasTextAt start pieces.flatten ∧
        stop = start + pieces.flatten.length := by
  induction count generalizing start with
  | zero =>
      simp only [chain_zero, List.length_eq_zero_iff]
      constructor
      · rintro rfl
        exact ⟨[], rfl, by simp, Line.hasTextAt_nil, rfl⟩
      · rintro ⟨_, rfl, -, -, rfl⟩
        rfl
  | succ count inductionHypothesis =>
      simp only [chain_succ, reads, inductionHypothesis]
      constructor
      · rintro ⟨_, ⟨piece, spelled, here, rfl⟩, pieces, rfl, allSpelled, behind, rfl⟩
        refine ⟨piece :: pieces, rfl, List.forall_mem_cons.mpr ⟨spelled, allSpelled⟩,
          Line.hasTextAt_append_iff.mpr ⟨here, behind⟩, ?_⟩
        simp [Nat.add_assoc]
      · rintro ⟨pieces, counted, allSpelled, found, rfl⟩
        obtain ⟨piece, pieces, rfl⟩ := List.exists_cons_of_length_eq_add_one counted
        obtain ⟨spelled, allSpelled⟩ := List.forall_mem_cons.mp allSpelled
        obtain ⟨here, behind⟩ := Line.hasTextAt_append_iff.mp found
        refine ⟨_, ⟨piece, spelled, here, rfl⟩, pieces,
          by simpa using counted, allSpelled, behind, ?_⟩
        simp [Nat.add_assoc]

/-- A plain expression matches exactly the texts that it stands for. -/
theorem matches_iff_spells (plain : regex.isPlain = true) :
    regex.Matches line start stop ↔
      ∃ text, regex.Spells text ∧ line.HasTextAt start text ∧
        stop = start + text.length := by
  induction regex generalizing start stop with
  | empty =>
      simp only [Matches, Spells]
      constructor
      · rintro rfl
        exact ⟨[], rfl, Line.hasTextAt_nil, rfl⟩
      · rintro ⟨_, rfl, -, rfl⟩
        rfl
  | set chars =>
      simp only [Matches, Spells]
      constructor
      · rintro ⟨rfl, char, found, member⟩
        exact ⟨[char], ⟨char, rfl, member⟩, Line.hasTextAt_singleton_iff.mpr found, rfl⟩
      · rintro ⟨_, ⟨char, rfl, member⟩, found, rfl⟩
        exact ⟨rfl, char, Line.hasTextAt_singleton_iff.mp found, member⟩
  | cat first second firstHypothesis secondHypothesis =>
      simp only [isPlain, Bool.and_eq_true] at plain
      simp only [Matches, Spells, firstHypothesis plain.1, secondHypothesis plain.2]
      constructor
      · rintro ⟨_, ⟨early, firstSpelled, here, rfl⟩, late, secondSpelled, behind, rfl⟩
        exact ⟨early ++ late, ⟨early, late, rfl, firstSpelled, secondSpelled⟩,
          Line.hasTextAt_append_iff.mpr ⟨here, behind⟩, by simp [Nat.add_assoc]⟩
      · rintro ⟨_, ⟨early, late, rfl, firstSpelled, secondSpelled⟩, found, rfl⟩
        obtain ⟨here, behind⟩ := Line.hasTextAt_append_iff.mp found
        exact ⟨_, ⟨early, firstSpelled, here, rfl⟩, late, secondSpelled, behind,
          by simp [Nat.add_assoc]⟩
  | alt first second firstHypothesis secondHypothesis =>
      simp only [isPlain, Bool.and_eq_true] at plain
      simp only [Matches, Spells, firstHypothesis plain.1, secondHypothesis plain.2,
        ← exists_or, ← or_and_right]
  | iterate body low high greedy inductionHypothesis =>
      simp only [Matches, Spells, chain_iff_exists_pieces (inductionHypothesis plain)]
      constructor
      · rintro ⟨_, enough, notMore, pieces, rfl, allSpelled, found, rfl⟩
        exact ⟨pieces.flatten, ⟨pieces, rfl, enough, notMore, allSpelled⟩, found, rfl⟩
      · rintro ⟨_, ⟨pieces, rfl, enough, notMore, allSpelled⟩, found, rfl⟩
        exact ⟨pieces.length, enough, notMore, pieces, rfl, allSpelled, found, rfl⟩
  | group index body inductionHypothesis => exact inductionHypothesis plain
  | assertion condition => cases plain
  | look side negated body => cases plain
  | backref index => cases plain
  | once body => cases plain

/-- An expression that matches the texts of one kind, depending on how the line goes on,
occurs where the line can be cut around such a text. -/
theorem occurs_iff_exists_cut
    {kind : List Char → Prop}
    {goesOn : Nat → Prop}
    (reads : ∀ {start stop}, regex.Matches line start stop ↔
      ∃ text, kind text ∧ line.HasTextAt start text ∧
        stop = start + text.length ∧ goesOn stop) :
    regex.Occurs line ↔
      ∃ before text after, line.toList = before ++ (text ++ after) ∧ kind text ∧
        goesOn (before.length + text.length) := by
  simp only [occurs_iff, reads]
  constructor
  · rintro ⟨start, within, _, text, isKind, found, rfl, going⟩
    obtain ⟨before, after, cut, rfl⟩ := (Line.hasTextAt_iff_exists_cut within).mp found
    exact ⟨before, text, after, cut, isKind, going⟩
  · rintro ⟨before, text, after, cut, isKind, going⟩
    have within : before.length ≤ line.size := by
      rw [← Array.length_toList, cut, List.length_append]
      exact Nat.le_add_right ..
    exact ⟨before.length, within, _, text, isKind,
      (Line.hasTextAt_iff_exists_cut within).mpr ⟨before, after, cut, rfl⟩, rfl, going⟩

/-- A plain expression occurs in a line that holds a text it stands for. -/
theorem occurs_iff_spells (plain : regex.isPlain = true) :
    regex.Occurs line ↔
      ∃ before text after, line.toList = before ++ (text ++ after) ∧
        regex.Spells text := by
  have reads : ∀ {start stop}, regex.Matches line start stop ↔
      ∃ text, regex.Spells text ∧ line.HasTextAt start text ∧ stop = start + text.length ∧
        True := by
    intro start stop
    simpa using matches_iff_spells plain
  simpa using occurs_iff_exists_cut reads

/-! ## Parts -/

theorem spells_seq_cons
    (first : Regex)
    (rest : List Regex)
    {text : List Char} :
    (seq (first :: rest)).Spells text ↔
      ∃ early late, text = early ++ late ∧ first.Spells early ∧
        (seq rest).Spells late := by
  cases rest with
  | nil => simp [seq, Spells]
  | cons second rest => exact Iff.rfl

theorem spells_seq_append
    (front back : List Regex)
    {text : List Char} :
    (seq (front ++ back)).Spells text ↔
      ∃ early late, text = early ++ late ∧ (seq front).Spells early ∧
        (seq back).Spells late := by
  induction front generalizing text with
  | nil => simp [seq, Spells]
  | cons first front inductionHypothesis =>
      simp only [List.cons_append, spells_seq_cons, inductionHypothesis]
      constructor
      · rintro ⟨here, _, rfl, isFirst, early, late, rfl, isFront, isBack⟩
        exact ⟨here ++ early, late, by simp, ⟨here, early, rfl, isFirst, isFront⟩, isBack⟩
      · rintro ⟨_, late, rfl, ⟨here, early, rfl, isFirst, isFront⟩, isBack⟩
        exact ⟨here, early ++ late, by simp, isFirst, early, late, rfl, isFront, isBack⟩

theorem isPlain_seq_append
    (front back : List Regex) :
    (seq (front ++ back)).isPlain = ((seq front).isPlain && (seq back).isPlain) := by
  have cons : ∀ first rest, (seq (first :: rest)).isPlain =
      (first.isPlain && (seq rest).isPlain) := by
    intro first rest
    cases rest with
    | nil => simp [seq, isPlain]
    | cons second rest => rfl
  induction front with
  | nil => rfl
  | cons first front inductionHypothesis =>
      rw [List.cons_append, cons, cons, inductionHypothesis, Bool.and_assoc]

/-- A repeated class stands for the texts of its characters. -/
theorem spells_run_iff
    {chars : CharSet}
    {greedy : Bool}
    {text : List Char} :
    (iterate (set chars) 0 none greedy).Spells text ↔
      ∀ char ∈ text, chars.contains char = true := by
  constructor
  · rintro ⟨pieces, rfl, -, -, allSpelled⟩ char member
    obtain ⟨piece, isPiece, inside⟩ := List.mem_flatten.mp member
    obtain ⟨only, rfl, contained⟩ := allSpelled piece isPiece
    rwa [List.mem_singleton.mp inside]
  · intro contained
    refine ⟨text.map fun char => [char], ?_, by simp, by simp, ?_⟩
    · rw [← List.flatMap_def, List.flatMap_singleton']
    · rintro _ isPiece
      obtain ⟨char, member, rfl⟩ := List.mem_map.mp isPiece
      exact ⟨char, rfl, contained char member⟩

/-- An optional part stands for nothing or for what it is. -/
theorem spells_optional_iff
    {part : Regex}
    {greedy : Bool}
    {text : List Char} :
    (iterate part 0 (some 1) greedy).Spells text ↔ text = [] ∨ part.Spells text := by
  constructor
  · rintro ⟨pieces, rfl, -, notMore, allSpelled⟩
    match pieces, notMore 1 rfl with
    | [], _ => exact .inl rfl
    | [piece], _ => simpa using Or.inr (allSpelled piece List.mem_cons_self)
  · rintro (rfl | spelled)
    · exact ⟨[], by simp⟩
    · exact ⟨[text], by simpa using spelled⟩

theorem spells_oneOf_iff
    {branches : List Regex}
    (nonempty : branches ≠ [])
    {text : List Char} :
    (oneOf branches).Spells text ↔ ∃ branch ∈ branches, branch.Spells text := by
  induction branches with
  | nil => exact absurd rfl nonempty
  | cons first rest inductionHypothesis =>
      cases rest with
      | nil => simp [oneOf]
      | cons second rest =>
          have unfolded : (oneOf (first :: second :: rest)).Spells text ↔
              first.Spells text ∨ (oneOf (second :: rest)).Spells text := Iff.rfl
          rw [unfolded, inductionHypothesis (List.cons_ne_nil _ _)]
          simp only [List.exists_mem_cons_iff]

/-- The parts of a group at the end may as well stand outside of it. -/
theorem matches_seq_group_iff
    {front back : List Regex}
    {index : Option Nat} :
    (seq (front ++ [group index (seq back)])).Matches line start stop ↔
      (seq (front ++ back)).Matches line start stop := by
  rw [matches_seq_append, matches_seq_append]
  exact Iff.rfl

/-! ## A lookahead at the end -/

section Lookahead

variable {parts : List Regex} {body : Regex}

/-- A negated lookahead behind plain parts turns down the texts that go on in a way that
its body stands for. -/
theorem occurs_seq_look_iff
    (plain : (seq parts).isPlain = true)
    (alsoPlain : body.isPlain = true) :
    (seq (parts ++ [look .ahead true body])).Occurs line ↔
      ∃ before text after, line.toList = before ++ (text ++ after) ∧
        (seq parts).Spells text ∧
        ∀ front, body.Spells front → ¬front <+: after := by
  have reads : ∀ {start stop},
      (seq (parts ++ [look .ahead true body])).Matches line start stop ↔
      ∃ text, (seq parts).Spells text ∧ line.HasTextAt start text ∧
        stop = start + text.length ∧
        ∀ front, body.Spells front → ¬line.HasTextAt stop front := by
    intro start stop
    simp only [matches_seq_append, matches_iff_spells plain,
      matches_iff_spells alsoPlain, seq, Matches]
    constructor
    · rintro ⟨_, ⟨text, spelled, found, rfl⟩, rfl, fails⟩
      refine ⟨text, spelled, found, rfl, fun front isBody goesOn => ?_⟩
      exact Bool.noConfusion (fails.mp ⟨_, front, isBody, goesOn, rfl⟩)
    · rintro ⟨text, spelled, found, rfl, fails⟩
      refine ⟨_, ⟨text, spelled, found, rfl⟩, rfl, iff_of_false ?_ Bool.noConfusion⟩
      rintro ⟨_, front, isBody, goesOn, -⟩
      exact fails front isBody goesOn
  rw [occurs_iff_exists_cut reads]
  refine exists_congr fun before => exists_congr fun text => exists_congr fun after =>
    and_congr_right fun cut => ?_
  simp only [Line.HasTextAt, cut, ← List.drop_drop, List.drop_left]

/-- Behind a greedy run of characters a negated lookahead is idle if everything that it
looks for starts with one of these characters: at the end of the longest run it finds
nothing. -/
theorem occurs_seq_run_look_iff
    {chars : CharSet}
    (plain : (seq parts).isPlain = true)
    (alsoPlain : body.isPlain = true)
    (inRun : ∀ front, body.Spells front → ∃ first rest, front = first :: rest ∧
      chars.contains first = true) :
    (seq (parts ++ [iterate (set chars) 0 none true,
      look .ahead true body])).Occurs line ↔
      (seq parts).Occurs line := by
  have regrouped : parts ++ [iterate (set chars) 0 none true, look .ahead true body] =
      (parts ++ [iterate (set chars) 0 none true]) ++ [look .ahead true body] := by simp
  have plainRun : (seq (parts ++ [iterate (set chars) 0 none true])).isPlain = true := by
    rw [isPlain_seq_append, plain]
    rfl
  rw [regrouped, occurs_seq_look_iff plainRun alsoPlain, occurs_iff_spells plain]
  simp only [spells_seq_append]
  constructor
  · rintro ⟨before, _, after, cut, ⟨text, run, rfl, spelled, -⟩, -⟩
    exact ⟨before, text, run ++ after, by rw [cut, List.append_assoc], spelled⟩
  · rintro ⟨before, text, after, cut, spelled⟩
    -- the longest run: what stands behind it does not belong to the class
    refine ⟨before, text ++ after.takeWhile chars.contains,
      after.dropWhile chars.contains, ?_, ⟨text, _, rfl, spelled, ?_⟩, ?_⟩
    · rw [cut, List.append_assoc, List.takeWhile_append_dropWhile]
    · exact spells_run_iff.mpr fun char => List.mem_takeWhile_imp
    · intro front isBody goesOn
      obtain ⟨first, rest, rfl, inside⟩ := inRun front isBody
      obtain ⟨beyond, found⟩ := goesOn
      have stopped := List.head?_dropWhile_not chars.contains after
      rw [← found, List.cons_append, List.head?_cons] at stopped
      exact Bool.noConfusion (inside.symm.trans stopped)

end Lookahead

/-! ## Words and blanks -/

/-- The parts of an expression for a word in any case. -/
def word (text : List Char) : List Regex :=
  text.map (Parser.literal { fold := true })

/-- Any number of blank characters. -/
def blanks : Regex :=
  iterate (set (.ofClass .blank)) 0 none true

theorem spells_literal_iff
    {letter : Char}
    (ascii : letter.toNat < 128)
    {text : List Char} :
    (Parser.literal { fold := true } letter).Spells text ↔
      ∃ char, text = [char] ∧ SameLetter letter char := by
  have onlyLetter : ∀ member, (CharClass.single letter).contains member = true ↔
      member = letter := by
    intro member
    simp [CharClass.single, CharClass.contains, ← Char.toNat_inj]
    omega
  have forms : ∀ char, (CharClass.folded (.single letter)).contains char = true ↔
      SameLetter letter char := by
    intro char
    rw [CharClass.contains_folded_iff_of_ascii]
    · simp only [onlyLetter, exists_eq_left]
    · intro member isLetter
      rwa [(onlyLetter member).mp isLetter]
  simp only [Parser.literal, Spells, CharSet.contains_eq]
  exact exists_congr fun char => and_congr_right fun _ => forms char

/-- A word in any case stands for the texts with the same letters. -/
theorem spells_word_iff
    {letters : List Char}
    (ascii : ∀ letter ∈ letters, letter.toNat < 128)
    {text : List Char} :
    (seq (word letters)).Spells text ↔ List.Forall₂ SameLetter letters text := by
  induction letters generalizing text with
  | nil => simp [word, seq, Spells]
  | cons letter letters inductionHypothesis =>
      obtain ⟨here, later⟩ := List.forall_mem_cons.mp ascii
      rw [word, List.map_cons, spells_seq_cons, ← word, List.forall₂_cons_left_iff]
      simp only [spells_literal_iff here, inductionHypothesis later]
      constructor
      · rintro ⟨_, late, rfl, ⟨char, rfl, same⟩, rest⟩
        exact ⟨char, late, same, rest, rfl⟩
      · rintro ⟨char, late, same, rest, rfl⟩
        exact ⟨[char], late, rfl, ⟨char, rfl, same⟩, rest⟩

/-- Characters without other forms stand for themselves. -/
theorem spells_marks_iff
    {marks : List Char}
    (ascii : ∀ mark ∈ marks, mark.toNat < 128)
    (alone : ∀ mark ∈ marks, mark ∉ Text.otherForms.map Text.smallForm ∧
      mark ∉ Text.otherForms)
    {text : List Char} :
    (seq (word marks)).Spells text ↔ text = marks := by
  rw [spells_word_iff ascii, eq_comm, ← List.forall₂_eq_eq_eq]
  clear ascii
  induction marks generalizing text with
  | nil => simp
  | cons mark marks inductionHypothesis =>
      obtain ⟨here, later⟩ := List.forall_mem_cons.mp alone
      simp only [List.forall₂_cons_left_iff, Text.sameLetter_iff_eq here.1 here.2,
        inductionHypothesis later]

theorem spells_blanks_iff {text : List Char} :
    blanks.Spells text ↔ ∀ char ∈ text, Text.isBlank char = true := by
  simp only [blanks, spells_run_iff, CharSet.contains_eq]
  exact Iff.rfl

/-! ## Alike expressions -/

/-- Whether two expressions differ at most in what is worked out of their classes. -/
def alike : Regex → Regex → Bool
  | .empty, .empty => true
  | .set chars, .set others => chars.toClass = others.toClass
  | .assertion condition, .assertion other => condition = other
  | .cat first second, .cat otherFirst otherSecond =>
      first.alike otherFirst && second.alike otherSecond
  | .alt first second, .alt otherFirst otherSecond =>
      first.alike otherFirst && second.alike otherSecond
  | .iterate body low high greedy, .iterate other otherLow otherHigh otherGreedy =>
      body.alike other && low = otherLow && high = otherHigh && greedy = otherGreedy
  | .group index body, .group otherIndex other => index = otherIndex && body.alike other
  | .look side negated body, .look otherSide otherNegated other =>
      side = otherSide && negated = otherNegated && body.alike other
  | .backref index, .backref other => index = other
  | .once body, .once other => body.alike other
  | _, _ => false

/-- Alike expressions match the same parts of a line. -/
theorem matches_iff_of_alike
    {other : Regex}
    (same : regex.alike other = true) :
    regex.Matches line start stop ↔ other.Matches line start stop := by
  fun_induction alike regex other generalizing start stop with
  | case1 => exact Iff.rfl
  | case2 chars others =>
      simp only [Matches, CharSet.contains_eq, of_decide_eq_true same]
  | case3 condition other => rw [of_decide_eq_true same]
  | case4 first second otherFirst otherSecond firstHypothesis secondHypothesis =>
      simp only [Bool.and_eq_true] at same
      simp only [Matches, firstHypothesis same.1, secondHypothesis same.2]
  | case5 first second otherFirst otherSecond firstHypothesis secondHypothesis =>
      simp only [Bool.and_eq_true] at same
      simp only [Matches, firstHypothesis same.1, secondHypothesis same.2]
  | case6 body low high greedy other otherLow otherHigh otherGreedy inductionHypothesis =>
      simp only [Bool.and_eq_true, decide_eq_true_eq] at same
      obtain ⟨⟨⟨alikeBody, rfl⟩, rfl⟩, rfl⟩ := same
      have copies : body.Matches line = other.Matches line := by
        funext start stop
        exact propext (inductionHypothesis alikeBody)
      simp only [Matches, copies]
  | case7 index body otherIndex other inductionHypothesis =>
      simp only [Bool.and_eq_true] at same
      exact inductionHypothesis same.2
  | case8 side negated body otherSide otherNegated other inductionHypothesis =>
      simp only [Bool.and_eq_true, decide_eq_true_eq] at same
      obtain ⟨⟨rfl, rfl⟩, alikeBody⟩ := same
      cases side <;> simp only [Matches, inductionHypothesis alikeBody]
  | case9 index other => exact Iff.rfl
  | case10 body other inductionHypothesis => exact Iff.rfl
  | case11 => cases same

theorem occurs_iff_of_alike
    {other : Regex}
    (same : regex.alike other = true) :
    regex.Occurs line ↔ other.Occurs line := by
  simp only [Occurs, matches_iff_of_alike same]

end Regex
end Pattern
end ScriptAudit
