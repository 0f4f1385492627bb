import ScriptAudit.Pattern.Compiled
import ScriptAudit.Proofs.Pattern.Readers

/-!
# Lookaround is left to the backtracking engine

The engine of a pattern is chosen by a search of its text for the marks of lookaround,
before anything is read. The reader of the linear language opens no lookaround at all.
The reader of the other language opens one only where its sign stands behind a
parenthesis and a gap, which may be empty, in what is left of the pattern, and what is
left is an end of the text. Where no parenthesis has such a sign behind it, nothing that
is read looks around: not the alternatives and items so far, nor the groups that are
still open. So the search finds every lookaround with an empty gap, however deep it is
nested and whatever groups are around it.

A gap that is not empty keeps parenthesis and sign apart. A lookaround that is written
in this way has no mark in the text, and the pattern is handed to the linear engine.
-/

namespace ScriptAudit
namespace Pattern

/-! ## Marks in a text -/

theorem containsText_iff {mark text : List Char} :
    containsText mark text = true ↔ mark <:+: text := by
  induction text with
  | nil => rw [containsText, List.isEmpty_iff, List.infix_nil]
  | cons char rest inductionHypothesis =>
      rw [containsText, Bool.or_eq_true, inductionHypothesis, List.isPrefixOf_iff_prefix,
        List.infix_cons_iff]

/-- The choice of an engine is the search for a mark. -/
theorem dialectOf_eq_backtracking_iff {pattern : List Char} :
    dialectOf pattern = .backtracking ↔ ∃ mark ∈ lookaroundMarks, mark <:+: pattern := by
  rw [dialectOf]
  simp only [← containsText_iff]
  rw [← List.any_eq_true]
  split
  · rename_i marked
    simp [marked]
  · rename_i unmarked
    simp [unmarked]

namespace Parser

/-- The signs of lookaround, without the parenthesis in front of them. -/
def lookaroundSigns : List (List Char) :=
  [['?', '='], ['?', '!'], ['?', '<', '='], ['?', '<', '!']]

/-- In what a parenthesis has behind it, a gap apart, a text starts with the sign of a
lookaround. -/
def OpensLookaround (text : List Char) : Prop :=
  ∃ flags behind rest, '(' :: behind <:+ text ∧
    skip? .backtracking flags behind = some rest ∧ ∃ sign ∈ lookaroundSigns, sign <+: rest

/-- The same with a gap that is not empty. -/
def OpensLate (text : List Char) : Prop :=
  ∃ flags behind rest, '(' :: behind <:+ text ∧
    skip? .backtracking flags behind = some rest ∧ rest ≠ behind ∧
      ∃ sign ∈ lookaroundSigns, sign <+: rest

theorem OpensLookaround.of_suffix
    {text rest : List Char}
    (opens : OpensLookaround rest)
    (left : rest <:+ text) :
    OpensLookaround text := by
  obtain ⟨flags, behind, found, isSuffix, skipped, sign⟩ := opens
  exact ⟨flags, behind, found, isSuffix.trans left, skipped, sign⟩

/-- Behind an empty gap, parenthesis and sign are a mark. -/
theorem OpensLookaround.marked_or_late
    {text : List Char}
    (opens : OpensLookaround text) :
    (∃ mark ∈ lookaroundMarks, mark <:+: text) ∨ OpensLate text := by
  obtain ⟨flags, behind, rest, isSuffix, skipped, sign, listed, isPrefix⟩ := opens
  rcases eq_or_ne rest behind with rfl | gap
  · refine .inl ⟨'(' :: sign, ?_, ?_⟩
    · have ofSign : ∀ sign ∈ lookaroundSigns, '(' :: sign ∈ lookaroundMarks := by decide
      exact ofSign sign listed
    · exact (List.cons_prefix_cons.mpr ⟨rfl, isPrefix⟩).isInfix.trans isSuffix.isInfix
  · exact .inr ⟨flags, behind, rest, isSuffix, skipped, gap, sign, listed, isPrefix⟩

theorem skip?_of_question
    (flags : Flags)
    (rest : List Char) :
    skip? .backtracking flags ('?' :: rest) = some ('?' :: rest) := by
  simp [skip?, skipRemarks?, isSpacing]

/-- The flag in front of a pattern opens no lookaround, not even with what follows it.
-/
theorem OpensLookaround.of_foldMark_append
    {pattern : List Char}
    (opens : OpensLookaround (foldMark.toList ++ pattern)) :
    OpensLookaround pattern := by
  have letters : foldMark.toList = ['(', '?', 'i', ')'] := by decide
  obtain ⟨flags, behind, rest, isSuffix, skipped, sign, listed, isPrefix⟩ := opens
  rw [letters] at isSuffix
  simp only [List.cons_append, List.nil_append, List.suffix_cons_iff, List.cons.injEq,
    Char.reduceEq, false_and, false_or, true_and] at isSuffix
  rcases isSuffix with rfl | isSuffix
  · rw [skip?_of_question] at skipped
    obtain rfl := Option.some.inj skipped
    simp only [lookaroundSigns, List.mem_cons, List.not_mem_nil, or_false] at listed
    rcases listed with rfl | rfl | rfl | rfl <;> simp at isPrefix
  · exact ⟨flags, behind, rest, isSuffix, skipped, sign, listed, isPrefix⟩

end Parser

/-! ## Expressions that look nowhere -/

namespace Regex

theorem looksAround_seq (parts : List Regex) :
    (seq parts).looksAround = parts.any looksAround := by
  induction parts with
  | nil => rfl
  | cons first rest inductionHypothesis =>
      cases rest with
      | nil => simp [seq]
      | cons second rest =>
          rw [List.any_cons, ← inductionHypothesis]
          rfl

theorem looksAround_oneOf (branches : List Regex) :
    (oneOf branches).looksAround = branches.any looksAround := by
  induction branches with
  | nil => rfl
  | cons first rest inductionHypothesis =>
      cases rest with
      | nil => simp [oneOf]
      | cons second rest =>
          rw [List.any_cons, ← inductionHypothesis]
          rfl

end Regex

namespace Parser

/-! ## States that look nowhere -/

/-- An open group is no lookaround, and nothing in front of it looks around. -/
structure Frame.IsBlind (frame : Frame) : Prop where
  kind : ∀ side negated, frame.kind ≠ .look side negated
  branches : ∀ branch ∈ frame.branches, branch.regex.looksAround = false
  items : ∀ item ∈ frame.items, item.regex.looksAround = false

/-- Nothing that has been read looks around, and no lookaround is open. -/
structure State.IsBlind (state : State) : Prop where
  branches : ∀ branch ∈ state.branches, branch.regex.looksAround = false
  items : ∀ item ∈ state.items, item.regex.looksAround = false
  frames : ∀ frame ∈ state.frames, frame.IsBlind

namespace State.IsBlind

variable {state : State} (blind : state.IsBlind)

include blind

theorem branch : state.branch.regex.looksAround = false := by
  rw [State.branch, Regex.looksAround_seq, List.any_eq_false]
  intro regex listed
  obtain ⟨item, member, rfl⟩ := List.mem_map.mp (List.mem_filter.mp listed).1
  rw [blind.items item (List.mem_reverse.mp member)]
  simp

theorem body : state.body.regex.looksAround = false := by
  rw [State.body, Regex.looksAround_oneOf, List.any_eq_false]
  intro regex listed
  obtain ⟨branch, member, rfl⟩ := List.mem_map.mp listed
  rcases List.mem_cons.mp (List.mem_reverse.mp member) with rfl | finished
  · simp [blind.branch]
  · simp [blind.branches branch finished]

/-- Flags, numbers and names do not matter. -/
theorem congr
    {other : State}
    (sameBranches : other.branches = state.branches)
    (sameItems : other.items = state.items)
    (sameFrames : other.frames = state.frames) :
    other.IsBlind :=
  ⟨sameBranches ▸ blind.branches, sameItems ▸ blind.items, sameFrames ▸ blind.frames⟩

theorem pushItem
    {item : Item}
    (looksNowhere : item.regex.looksAround = false) :
    (state.pushItem item).IsBlind where
  branches := blind.branches
  items := List.forall_mem_cons.mpr ⟨looksNowhere, blind.items⟩
  frames := blind.frames

theorem push
    {regex : Regex}
    (looksNowhere : regex.looksAround = false) :
    (state.push regex).IsBlind :=
  blind.pushItem looksNowhere

theorem nextBranch : state.nextBranch.IsBlind where
  branches := List.forall_mem_cons.mpr ⟨blind.branch, blind.branches⟩
  items := nofun
  frames := blind.frames

theorem openGroup
    (kind : GroupKind)
    (noLook : ∀ side negated, kind ≠ .look side negated)
    (restored : Option Flags) :
    (state.openGroup kind restored).IsBlind where
  branches := nofun
  items := nofun
  frames := List.forall_mem_cons.mpr ⟨⟨noLook, blind.branches, blind.items⟩, blind.frames⟩

theorem openCapture (dialect : Dialect) : (openCapture dialect state).IsBlind :=
  (blind.openGroup (.capture _) nofun _).congr rfl rfl rfl

theorem replaceLast
    {last item : Item}
    {items : List Item}
    (isLast : state.items = last :: items)
    (looksNowhere : last.regex.looksAround = false → item.regex.looksAround = false) :
    State.IsBlind { state with items := item :: items } := by
  obtain ⟨ofLast, others⟩ := List.forall_mem_cons.mp (isLast ▸ blind.items)
  exact ⟨blind.branches,
    List.forall_mem_cons.mpr ⟨looksNowhere ofLast, others⟩, blind.frames⟩

end State.IsBlind

theorem closedItem_looksAround
    {dialect : Dialect}
    {kind : GroupKind}
    {body : Branch}
    (noLook : ∀ side negated, kind ≠ .look side negated)
    (looksNowhere : body.regex.looksAround = false) :
    (closedItem dialect kind body).regex.looksAround = false := by
  cases kind with
  | look side negated => exact absurd rfl (noLook side negated)
  | plain => exact looksNowhere
  | capture index => exact looksNowhere
  | once => exact looksNowhere

theorem State.IsBlind.closeGroup?
    {dialect : Dialect}
    {state next : State}
    (blind : state.IsBlind)
    (closed : closeGroup? dialect state = some next) :
    next.IsBlind := by
  unfold Parser.closeGroup? at closed
  split at closed
  · cases closed
  · rename_i frame frames isOpen
    split at closed
    · cases closed
      obtain ⟨innermost, others⟩ := List.forall_mem_cons.mp (isOpen ▸ blind.frames)
      exact ⟨innermost.branches, List.forall_mem_cons.mpr
        ⟨closedItem_looksAround innermost.kind blind.body, innermost.items⟩, others⟩
    · cases closed

/-! ## Steps that look nowhere -/

/-- A reader leaves an end of what it is given, and reads nothing that looks around. -/
structure Advances (state : State) (chars : List Char) (next : State) (rest : List Char) :
    Prop where
  suffix : rest <:+ chars
  blind : state.IsBlind → next.IsBlind

variable {dialect : Dialect} {state next : State} {chars rest : List Char}

theorem advances_of_repeatLast?
    {low : Nat}
    {high : Option Nat}
    (read : repeatLast? dialect state low high chars = some (next, rest)) :
    Advances state chars next rest := by
  unfold repeatLast? at read
  split at read
  · rename_i regex depth items isLast
    have behindSign :
        (if (chars.head? != some '?') = true then chars else chars.drop 1) <:+ chars := by
      split
      · exact List.suffix_rfl
      · exact List.drop_suffix 1 chars
    dsimp only at read
    generalize (if (chars.head? != some '?') = true then chars else chars.drop 1) = left
      at read behindSign
    split at read
    · cases read
      exact ⟨(List.suffix_cons _ _).trans behindSign,
        fun blind => blind.replaceLast isLast id⟩
    · cases read
      exact ⟨behindSign, fun blind => blind.replaceLast isLast id⟩
    · cases read
      exact ⟨behindSign, fun blind => blind.replaceLast isLast id⟩
  · cases read

theorem Advances.of_suffix
    {left : List Char}
    (advances : Advances state left next rest)
    (suffix : left <:+ chars) :
    Advances state chars next rest :=
  ⟨advances.suffix.trans suffix, advances.blind⟩

theorem advances_of_repeatBy?
    {low : Nat}
    {high : Option Nat}
    (read : repeatBy? dialect state low high chars = some (next, rest)) :
    Advances state chars next rest := by
  cases dialect with
  | linear =>
      have repeated : repeatLast? .linear state low high chars = some (next, rest) := read
      exact advances_of_repeatLast? repeated
  | backtracking =>
      obtain ⟨behind, gap, repeated⟩ := Option.bind_eq_some_iff.mp read
      exact (advances_of_repeatLast? repeated).of_suffix (suffix_of_skip? gap)

theorem advances_of_openBrace?
    (read : openBrace? dialect state chars = some (next, rest)) :
    Advances state chars next rest := by
  have asLiteral : Advances state chars (state.push (literal state.flags '\x7b')) chars :=
    ⟨List.suffix_rfl, fun blind => blind.push rfl⟩
  unfold openBrace? at read
  cases dialect with
  | linear =>
      obtain ⟨⟨low, high, left⟩, bounds, next⟩ := Option.bind_eq_some_iff.mp read
      dsimp only at next
      split at next
      · exact (advances_of_repeatLast? next).of_suffix
          ((suffix_of_skipBlanks _ _).trans (suffix_of_readBounds? bounds))
      · cases next
  | backtracking =>
      dsimp only at read
      split at read
      · cases read
        exact asLiteral
      · cases read
        exact asLiteral
      · split at read
        · rename_i bounds
          exact (advances_of_repeatBy? read).of_suffix (suffix_of_readBounds? bounds)
        · cases read
          exact asLiteral

theorem advances_of_openNamed?
    (read : openNamed? dialect state chars = some (next, rest)) :
    Advances state chars next rest := by
  obtain ⟨⟨name, left⟩, named, opened⟩ := Option.bind_eq_some_iff.mp read
  dsimp only at opened
  split at opened
  · cases opened
  · cases opened
    exact ⟨suffix_of_readName? named,
      fun blind => (blind.openCapture dialect).congr rfl rfl rfl⟩

/-- A group without the sign of a lookaround is some other group or sets flags. -/
theorem advances_of_openSigned?
    (read : openSigned? dialect state chars = some (next, rest))
    (noSign : dialect = .backtracking → ∀ sign ∈ lookaroundSigns, ¬sign <+: chars) :
    Advances state chars next rest := by
  have noLook : ∀ sign ∈ lookaroundSigns, ∀ {side negated behind},
      chars = sign ++ behind →
      openLook? dialect state side negated behind ≠ some (next, rest) := by
    intro sign listed side negated behind opens found
    cases dialect with
    | linear => cases found
    | backtracking =>
        exact noSign rfl sign listed (opens ▸ List.prefix_append sign behind)
  unfold openSigned? at read
  -- the cases in the order of the reader: first the four signs, which do not stand here
  split at read
  · exact (noLook ['?', '='] (by decide) rfl read).elim
  · exact (noLook ['?', '!'] (by decide) rfl read).elim
  · exact (noLook ['?', '<', '='] (by decide) rfl read).elim
  · exact (noLook ['?', '<', '!'] (by decide) rfl read).elim
  · exact (advances_of_openNamed? read).of_suffix (suffix_cons_cons _ _ _)
  · exact (advances_of_openNamed? read).of_suffix
      ((suffix_cons_cons _ _ _).trans (List.suffix_cons _ _))
  · cases dialect with
    | linear => cases read
    | backtracking =>
        cases read
        exact ⟨suffix_cons_cons _ _ _, fun blind => blind.openGroup .once nofun none⟩
  · split at read
    · rename_i flags
      cases read
      refine ⟨(suffix_of_readFlags? flags).trans (List.suffix_cons _ _), fun blind => ?_⟩
      apply State.IsBlind.pushItem _ rfl
      exact blind.congr rfl rfl rfl
    · rename_i flags
      cases read
      refine ⟨(suffix_of_readFlags? flags).trans (List.suffix_cons _ _), fun blind => ?_⟩
      exact (blind.openGroup .plain nofun _).congr rfl rfl rfl
    · cases read
  · cases read
    exact ⟨List.suffix_rfl, fun blind => blind.openCapture dialect⟩

theorem advances_of_openParen?
    (read : openParen? dialect state chars = some (next, rest))
    (quiet : dialect = .backtracking → ¬OpensLookaround ('(' :: chars)) :
    Advances state chars next rest := by
  obtain ⟨behind, gap, opened⟩ := Option.bind_eq_some_iff.mp read
  refine (advances_of_openSigned? opened fun isBacktracking sign listed
    opens => ?_).of_suffix (suffix_of_skip? gap)
  subst isBacktracking
  exact quiet rfl ⟨state.flags, chars, behind, List.suffix_rfl, gap, sign, listed, opens⟩

/-- One step of the reader, where no lookaround is opened. -/
theorem advances_of_step?
    {char : Char}
    (read : step? dialect state char chars = some (next, rest))
    (quiet : dialect = .backtracking → ¬OpensLookaround (char :: chars)) :
    Advances state chars next rest := by
  -- only a parenthesis can open a lookaround; every other unit leaves one item or none
  unfold step? at read
  dsimp only at read
  split at read
  · split at read
    · exact advances_of_openParen? read quiet
    · cases read
  · obtain ⟨closed, closes, same⟩ := Option.map_eq_some_iff.mp read
    cases same
    exact ⟨List.suffix_rfl, fun blind => blind.closeGroup? closes⟩
  · cases read
    exact ⟨List.suffix_rfl, fun blind => blind.nextBranch⟩
  · obtain ⟨⟨members, left⟩, bracket, same⟩ := Option.map_eq_some_iff.mp read
    cases same
    exact ⟨suffix_of_readClass? bracket, fun blind => blind.pushItem rfl⟩
  · exact advances_of_repeatBy? read
  · exact advances_of_repeatBy? read
  · exact advances_of_repeatBy? read
  · exact advances_of_openBrace? read
  · obtain ⟨⟨symbol, left⟩, escaped, pushed⟩ := Option.bind_eq_some_iff.mp read
    have suffix : left <:+ chars := suffix_of_readEscape? escaped
    cases symbol with
    | char letter =>
        cases pushed
        exact ⟨suffix, fun blind => blind.push rfl⟩
    | chars members =>
        cases pushed
        exact ⟨suffix, fun blind => blind.push rfl⟩
    | assertion condition =>
        cases pushed
        exact ⟨suffix, fun blind => blind.pushItem rfl⟩
    | backref index =>
        dsimp only at pushed
        split at pushed
        · cases pushed
          refine ⟨suffix, fun blind => ?_⟩
          apply State.IsBlind.push _ rfl
          exact blind.congr rfl rfl rfl
        · cases pushed
  · cases read
    exact ⟨List.suffix_rfl, fun blind => blind.push rfl⟩
  · cases read
    exact ⟨List.suffix_rfl, fun blind => blind.pushItem rfl⟩
  · cases read
    exact ⟨List.suffix_rfl, fun blind => blind.pushItem rfl⟩
  · cases read
    exact ⟨List.suffix_rfl, fun blind => blind.push rfl⟩

/-- Where no lookaround is opened, a whole run of the reader finds none. -/
theorem isBlind_of_readUnits?
    {fuel : Nat}
    {source : List Char}
    (read : readUnits? dialect fuel state source = some next)
    (quiet : dialect = .backtracking → ¬OpensLookaround source)
    (blind : state.IsBlind) :
    next.IsBlind := by
  -- what one step leaves is an end of the text, so that it opens no lookaround either
  induction fuel generalizing state source with
  | zero =>
      unfold readUnits? at read
      split at read
      · cases read
      · cases read
        exact blind
      · cases read
  | succ fuel inductionHypothesis =>
      unfold readUnits? at read
      split at read
      · cases read
      · cases read
        exact blind
      · rename_i char rest gap
        have behindGap := suffix_of_skip? gap
        dsimp only at read
        split at read
        · rename_i middle left step
          have advances := advances_of_step? step fun isBacktracking opens =>
            quiet isBacktracking (opens.of_suffix behindGap)
          have left :=
            (advances.suffix.trans (List.suffix_cons char rest)).trans behindGap
          exact inductionHypothesis read
            (fun isBacktracking opens => quiet isBacktracking (opens.of_suffix left))
            (advances.blind blind)
        · cases read

end Parser

/-- An expression that looks around was read from a text of the backtracking language in
which a lookaround is opened. -/
theorem opens_of_looksAround
    {dialect : Dialect}
    {source : List Char}
    {regex : Regex}
    (read : parse? dialect source = some regex)
    (looks : regex.looksAround = true) :
    dialect = .backtracking ∧ Parser.OpensLookaround source := by
  by_contra quiet
  unfold parse? at read
  split at read
  · rename_i state units
    split at read
    · cases read
      have start : Parser.State.IsBlind {} := ⟨nofun, nofun, nofun⟩
      have blind := Parser.isBlind_of_readUnits? units
        (fun isBacktracking opens => quiet ⟨isBacktracking, opens⟩) start
      rw [blind.body] at looks
      cases looks
    · cases read
  · cases read

/-! ## The choice of an engine -/

/-- The language that was chosen for a pattern, whether or not the pattern could be read
in it. -/
def chosenDialect : Except PatternError Compiled → Dialect
  | .ok compiled => if compiled.usesBacktracking then .backtracking else .linear
  | .error error => error.dialect

/-- An engine searches without going back exactly if it was made for the linear
language. -/
theorem Engine.usesBacktracking_of_ofSource?
    {dialect : Dialect}
    {source : List Char}
    {text : String}
    {engine : Engine}
    (made : Engine.ofSource? dialect source = some engine) :
    Compiled.usesBacktracking ⟨text, engine⟩ = decide (dialect = .backtracking) := by
  cases dialect with
  | linear =>
      obtain ⟨regex, -, rfl⟩ := Option.map_eq_some_iff.mp made
      rfl
  | backtracking =>
      obtain ⟨regex, -, hard⟩ := Option.bind_eq_some_iff.mp made
      unfold Engine.ofHard? at hard
      split at hard
      · obtain ⟨plan, -, rfl⟩ := Option.map_eq_some_iff.mp hard
        rfl
      · split at hard
        · cases hard
          rfl
        · cases hard

/-- The search of the text decides which engine a pattern is given to. -/
theorem chosenDialect_ofPattern (pattern : String) :
    chosenDialect (Compiled.ofPattern pattern) = dialectOf pattern.toList := by
  unfold Compiled.ofPattern
  dsimp only
  split
  · rename_i engine made
    rw [chosenDialect, Engine.usesBacktracking_of_ofSource? made]
    cases dialectOf pattern.toList <;> rfl
  · rfl

/-- A linear engine searches for what its text was read as. -/
theorem parse?_of_linear
    {pattern : String}
    {compiled : Compiled}
    {regex : Regex}
    (accepted : Compiled.ofPattern pattern = .ok compiled)
    (isLinear : compiled.engine = .linear regex) :
    parse? .linear compiled.source.toList = some regex := by
  have chosen : dialectOf pattern.toList = .linear := by
    rw [← chosenDialect_ofPattern, accepted, chosenDialect,
      Compiled.usesBacktracking, isLinear]
    rfl
  simp only [Compiled.ofPattern, chosen] at accepted
  split at accepted
  · rename_i engine made
    cases accepted
    obtain ⟨parsed, filtered, same⟩ := Option.map_eq_some_iff.mp made
    obtain rfl : parsed = regex := Engine.linear.inj (same.trans isLinear)
    exact (Option.filter_eq_some_iff.mp filtered).1
  · cases accepted

/-- The backtracking engine gets exactly the patterns that have a mark of lookaround in
their text. A pattern in which a lookaround is read, at any depth and with or without
the flag in front of it, is one of them, unless it keeps the parenthesis of a lookaround
and its sign apart by a gap. What the linear engine searches for never looks around. -/
theorem lookaround_needs_backtracking_unless_late (pattern : String) :
    (chosenDialect (Compiled.ofPattern pattern) = .backtracking ↔
      ∃ mark ∈ lookaroundMarks, mark <:+: pattern.toList) ∧
    (∀ dialect source regex,
      source = pattern.toList ∨ source = foldMark.toList ++ pattern.toList →
      parse? dialect source = some regex → regex.looksAround = true →
        dialect = .backtracking ∧
          (chosenDialect (Compiled.ofPattern pattern) = .backtracking ∨
            Parser.OpensLate pattern.toList)) ∧
    ∀ compiled regex, Compiled.ofPattern pattern = .ok compiled →
      compiled.engine = .linear regex → regex.looksAround = false := by
  have chosen : chosenDialect (Compiled.ofPattern pattern) = .backtracking ↔
      ∃ mark ∈ lookaroundMarks, mark <:+: pattern.toList := by
    rw [chosenDialect_ofPattern, dialectOf_eq_backtracking_iff]
  refine ⟨chosen, ?_, ?_⟩
  · intro dialect source regex isSource read looks
    obtain ⟨isBacktracking, opens⟩ := opens_of_looksAround read looks
    have opensPattern : Parser.OpensLookaround pattern.toList := by
      rcases isSource with rfl | rfl
      · exact opens
      · exact opens.of_foldMark_append
    exact ⟨isBacktracking, opensPattern.marked_or_late.imp_left chosen.mpr⟩
  · intro compiled regex accepted isLinear
    rw [Bool.eq_false_iff]
    intro looks
    cases (opens_of_looksAround (parse?_of_linear accepted isLinear) looks).1

/-- A lookbehind inside of a group, inside of a repeated group with a name. -/
def Sample.nested : String := "(?<word>[(?]a(?:b\\(|(?<!c)d))+"

/-- Groups with names and nothing that looks around. -/
def Sample.named : String := "(?<left>a(?P<right>\\(?b))"

/-- A lookahead with a blank between its parenthesis and its sign. -/
def Sample.apart : String := "(?x)a( ?=b)"

theorem exists_of_any_looksAround
    {source : List Char}
    (looks : (parse? .backtracking source).any Regex.looksAround = true) :
    ∃ regex, parse? .backtracking source = some regex ∧ regex.looksAround = true :=
  (Option.any_eq_true _ _).mp looks

theorem lookaround_needs_backtracking_unless_late_samples :
    (∃ regex, parse? .backtracking Sample.nested.toList = some regex ∧
      regex.looksAround = true ∧
      (chosenDialect (Compiled.ofPattern Sample.nested) = .backtracking ∨
        Parser.OpensLate Sample.nested.toList)) ∧
    ∃ compiled regex, Compiled.ofPattern Sample.named = .ok compiled ∧
      compiled.engine = .linear regex ∧ regex.looksAround = false := by
  constructor
  · have looks :
        (parse? .backtracking Sample.nested.toList).any Regex.looksAround = true := by
      decide +kernel
    obtain ⟨regex, read, looks⟩ := exists_of_any_looksAround looks
    exact ⟨regex, read, looks,
      ((lookaround_needs_backtracking_unless_late Sample.nested).2.1
      .backtracking _ regex (.inl rfl) read looks).2⟩
  · have isLinear :
        (Compiled.ofPattern Sample.named).toOption.any (!·.usesBacktracking) = true := by
      decide +kernel
    cases accepted : Compiled.ofPattern Sample.named with
    | error error => simp [accepted, Except.toOption] at isLinear
    | ok compiled =>
        have forward : compiled.usesBacktracking = false := by
          simpa [accepted, Except.toOption] using isLinear
        unfold Compiled.usesBacktracking at forward
        split at forward
        · rename_i regex made
          exact ⟨compiled, regex, rfl, made,
            (lookaround_needs_backtracking_unless_late Sample.named).2.2
              compiled regex accepted made⟩
        · cases forward

/-- A lookaround that is written with a gap is missed: the backtracking language reads
it, but the pattern is handed to the linear engine, which refuses it. -/
theorem lateLookaround_is_missed :
    (∃ regex, parse? .backtracking (foldMark ++ Sample.apart).toList = some regex ∧
      regex.looksAround = true) ∧
    ∃ error, Compiled.ofPattern Sample.apart = .error error ∧
      error.dialect = .linear := by
  constructor
  · exact exists_of_any_looksAround (by decide +kernel)
  · have refused : (Compiled.ofPattern Sample.apart).toOption.isNone = true := by
      decide +kernel
    have chosen : chosenDialect (Compiled.ofPattern Sample.apart) = .linear :=
      (chosenDialect_ofPattern _).trans (by decide +kernel)
    cases answer : Compiled.ofPattern Sample.apart with
    | ok compiled => simp [answer, Except.toOption] at refused
    | error error => exact ⟨error, rfl, by rwa [answer] at chosen⟩

end Pattern
end ScriptAudit
