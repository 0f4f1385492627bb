import ScriptAudit.Pattern.Parser.Bracket
import ScriptAudit.Text.Alphabetic
import ScriptAudit.Text.Numeric

/-!
# The pattern language

`parse?` reads a pattern in the language of one of the two engines. The reader
goes through the pattern once and keeps the groups that are still open on a
stack.

The engines differ in a few places. The linear engine refuses lookaround, lets
repetitions be stacked, and takes every `{` for a repetition. The backtracking
engine repeats only what can consume characters, reads `+` behind a repetition
as a demand to keep its first way, takes a `{` that starts no repetition for
itself, and lets flags that are set inside a group live on behind it. It refers
to groups by number, but not where groups have names. Both bound how deep a
pattern nests, the one by its groups and the other by all its operators.

Gaps are left out in front of every unit and behind an opening parenthesis, so
that the sign of a group need not stand right behind its parenthesis.
-/

namespace ScriptAudit
namespace Pattern
namespace Parser

/-- What a repetition operator does to the item in front of it. -/
inductive Standing
  /-- The item may be repeated. -/
  | free
  /-- The item may not be repeated. -/
  | fixed
  /-- The item is a repetition that takes no further operator. -/
  | repeated
  deriving Repr, DecidableEq

/-- A member of the concatenation that is being read. -/
structure Item where
  regex : Regex
  standing : Standing
  /-- How deep the operators of the member nest. -/
  depth : Nat := 0

/-- A finished alternative. -/
structure Branch where
  regex : Regex
  /-- How deep its operators nest. -/
  depth : Nat

/-- The kinds of groups. -/
inductive GroupKind
  | plain
  | capture (index : Nat)
  | look (side : Side) (negated : Bool)
  | once

/-- A group that is still open, with what stands in front of it. -/
structure Frame where
  kind : GroupKind
  /-- The flags that hold again behind the group, if it restores any. -/
  restored : Option Flags
  /-- The finished alternatives in front of the group, the last one first. -/
  branches : List Branch
  /-- The items in front of the group, the last one first. -/
  items : List Item

/-- What has been read of a pattern. -/
structure State where
  flags : Flags := {}
  /-- The number of capturing groups opened so far. -/
  groups : Nat := 0
  /-- The names of groups used so far. -/
  names : List (List Char) := []
  /-- Some group has been referred to by its number. -/
  numbered : Bool := false
  /-- The finished alternatives of the innermost group, the last one first. -/
  branches : List Branch := []
  /-- The items of its current alternative, the last one first. -/
  items : List Item := []
  /-- The groups around it, the innermost first. -/
  frames : List Frame := []

/-- Whether an expression is empty, whatever parentheses are around it. -/
def isEmpty (regex : Regex) : Bool :=
  match regex.bare with
  | .empty => true
  | _ => false

/-- The depth of an operator with several operands; a single operand needs
none. -/
def depthOver : (operands : List Nat) → Nat
  | [] => 0
  | [depth] => depth
  | depths => depths.foldl max 0 + 1

namespace State

/-- Append an item. -/
def pushItem (state : State) (item : Item) : State :=
  { state with items := item :: state.items }

/-- Append an item that may be repeated. -/
def push (state : State) (regex : Regex) : State :=
  state.pushItem { regex, standing := .free }

/-- The current alternative. -/
def branch (state : State) : Branch where
  regex :=
    Regex.seq ((state.items.reverse.map (·.regex)).filter fun regex => !isEmpty regex)
  depth := depthOver (state.items.map (·.depth))

/-- The alternatives of the innermost group as one. -/
def body (state : State) : Branch :=
  let branches := (state.branch :: state.branches).reverse
  { regex := Regex.oneOf (branches.map (·.regex))
    depth := depthOver (branches.map (·.depth)) }

/-- Whether the innermost group may end here. Only the end of a group without
alternatives is held against names next to numbers. -/
def mayClose (state : State) (dialect : Dialect) : Bool :=
  match dialect with
  | .linear => true
  | .backtracking =>
      !state.branches.isEmpty || !state.numbered || state.names.isEmpty

/-- Start the next alternative. -/
def nextBranch (state : State) : State :=
  { state with branches := state.branch :: state.branches, items := [] }

/-- Open a group. -/
def openGroup (state : State) (kind : GroupKind) (restored : Option Flags) : State :=
  { state with
    branches := []
    items := []
    frames := ⟨kind, restored, state.branches, state.items⟩ :: state.frames }

end State

/-- One character as an expression, in the case that the flags ask for. -/
def literal (flags : Flags) (char : Char) : Regex :=
  let members := CharClass.single char
  .set (.ofClass (if flags.fold then .folded members else members))

/-- The characters that `.` stands for. -/
def anyChar (flags : Flags) : CharClass :=
  if flags.dotAll then .all
  else if flags.carriage then .notLineEnd
  else .notLineFeed

/-- The position that `^` stands for. -/
def startMark (flags : Flags) : Assertion :=
  if !flags.multiLine then .textStart
  else if flags.carriage then .anyLineStart
  else .lineStart

/-- The position that `$` stands for. -/
def endMark (flags : Flags) : Assertion :=
  if !flags.multiLine then .textEnd
  else if flags.carriage then .anyLineEnd
  else .lineEnd

/-- Whether the backtracking engine repeats an expression. -/
def standingOf (regex : Regex) : Standing :=
  match regex.bare with
  | .empty => .fixed
  | .assertion _ => .fixed
  | .look .. => .fixed
  | _ => .free

/-- How an assertion may be repeated. -/
def assertionStanding : Dialect → Standing
  | .linear => .free
  | .backtracking => .fixed

/-- A closed group as an item. -/
def closedItem (dialect : Dialect) (kind : GroupKind) (body : Branch) : Item :=
  let depth := body.depth + 1
  match kind with
  | .plain =>
      { regex := .group none body.regex
        standing :=
          match dialect with
          | .linear => .free
          | .backtracking => standingOf body.regex
        depth }
  | .capture index =>
      { regex := .group (some index) body.regex, standing := .free, depth }
  | .look side negated =>
      { regex := .look side negated body.regex.bare, standing := .fixed, depth }
  | .once => { regex := .once body.regex, standing := .free, depth }

/-- Close the innermost group. -/
def closeGroup? (dialect : Dialect) (state : State) : Option State :=
  match state.frames with
  | [] => none
  | frame :: frames =>
      if state.mayClose dialect then
        some
          { state with
            flags := frame.restored.getD state.flags
            branches := frame.branches
            items := closedItem dialect frame.kind state.body :: frame.items
            frames := frames }
      else none

/-- Switch one flag, if the letter names one. Characters are always those of
Unicode, so that `u` changes nothing and cannot be taken back. -/
def setFlag? (dialect : Dialect) (flags : Flags) (value : Bool) : Char → Option Flags
  | 'i' => some { flags with fold := value }
  | 'm' => some { flags with multiLine := value }
  | 's' => some { flags with dotAll := value }
  | 'U' => some { flags with swapped := value }
  | 'x' => some { flags with verbose := value }
  | 'u' => if value then some flags else none
  | 'R' =>
      match dialect with
      | .linear => some { flags with carriage := value }
      | .backtracking => none
  | _ => none

/-- Whether flag letters that were read already forbid another one. -/
def forbidsFlag (dialect : Dialect) (seen : List Char) (letter : Char) : Bool :=
  match dialect with
  | .linear => seen.contains letter
  | .backtracking => letter == '-' && seen.contains '-'

/-- Whether a list of flag letters, the last one first, may end. -/
def mayEndFlags (dialect : Dialect) (closing : Bool) (seen : List Char) : Bool :=
  match dialect with
  | .linear => seen.head? != some '-' && !(closing && seen.isEmpty)
  | .backtracking => seen != ['-'] && !(closing && seen.isEmpty)

/-- Leave out the gap in front of a flag letter, which only the backtracking engine
allows. A gap counts as a blank among the letters. -/
def skipInFlags? (dialect : Dialect) (flags : Flags) (seen chars : List Char) :
    Option (List Char × List Char) :=
  match dialect with
  | .linear => some (seen, chars)
  | .backtracking =>
      (skip? .backtracking flags chars).map fun rest =>
        (if rest.length < chars.length then ' ' :: seen else seen, rest)

/-- Read flag letters up to the `)` or `:` behind them, and tell whether it was
a `)`. -/
def readFlags? (dialect : Dialect) :
    (fuel : Nat) → Flags → (seen : List Char) → List Char →
      Option (Flags × Bool × List Char)
  | 0, _, _, _ => none
  | fuel + 1, flags, seen, chars =>
      match skipInFlags? dialect flags seen chars with
      | some (seen, ')' :: rest) =>
          if mayEndFlags dialect true seen then some (flags, true, rest) else none
      | some (seen, ':' :: rest) =>
          if mayEndFlags dialect false seen then some (flags, false, rest) else none
      | some (seen, letter :: rest) =>
          if forbidsFlag dialect seen letter then none
          else if letter = '-' then readFlags? dialect fuel flags ('-' :: seen) rest
          else
            match setFlag? dialect flags (!seen.contains '-') letter with
            | some flags => readFlags? dialect fuel flags (letter :: seen) rest
            | none => none
      | _ => none

/-- Whether a character may stand in the name of a group. -/
def isNameChar (dialect : Dialect) (first : Bool) (char : Char) : Bool :=
  let mayFollow := char == '_' || Text.isAlphabetic char || Text.isNumeric char
  match dialect with
  | .linear =>
      if first then char == '_' || Text.isAlphabetic char
      else mayFollow || char == '.' || char == '[' || char == ']'
  | .backtracking => mayFollow

/-- Read the name of a group and the `>` behind it. -/
def readName? (dialect : Dialect) (chars : List Char) :
    Option (List Char × List Char) :=
  match chars with
  | [] => none
  | first :: _ =>
      if isNameChar dialect true first then
        match chars.span (isNameChar dialect false) with
        | (name, '>' :: rest) => some (name, rest)
        | _ => none
      else none

/-- Open a capturing group. -/
def openCapture (dialect : Dialect) (state : State) : State :=
  let index := state.groups + 1
  let restored :=
    match dialect with
    | .linear => some state.flags
    | .backtracking => none
  { state.openGroup (.capture index) restored with groups := index }

/-- Open a capturing group with a name. -/
def openNamed? (dialect : Dialect) (state : State) (chars : List Char) :
    Option (State × List Char) := do
  let (name, rest) ← readName? dialect chars
  if dialect = .linear && state.names.contains name then none
  else some ({ openCapture dialect state with names := name :: state.names }, rest)

/-- Open a lookaround, which only the backtracking engine knows. -/
def openLook? (dialect : Dialect) (state : State) (side : Side) (negated : Bool)
    (rest : List Char) : Option (State × List Char) :=
  match dialect with
  | .linear => none
  | .backtracking => some (state.openGroup (.look side negated) none, rest)

/-- The number of groups inside of each other that the backtracking engine
refuses. -/
def refusedGroupDepth : Nat := 64

/-- Whether one more group may be opened inside of the open ones. -/
def mayNest (dialect : Dialect) (state : State) : Bool :=
  match dialect with
  | .linear => true
  | .backtracking => state.frames.length + 1 < refusedGroupDepth

/-- Open a group of the kind that its sign says. -/
def openSigned? (dialect : Dialect) (state : State) :
    List Char → Option (State × List Char)
  | '?' :: '=' :: rest => openLook? dialect state .ahead false rest
  | '?' :: '!' :: rest => openLook? dialect state .ahead true rest
  | '?' :: '<' :: '=' :: rest => openLook? dialect state .behind false rest
  | '?' :: '<' :: '!' :: rest => openLook? dialect state .behind true rest
  | '?' :: '<' :: rest => openNamed? dialect state rest
  | '?' :: 'P' :: '<' :: rest => openNamed? dialect state rest
  | '?' :: '>' :: rest =>
      match dialect with
      | .linear => none
      | .backtracking => some (state.openGroup .once none, rest)
  | '?' :: rest =>
      match readFlags? dialect (rest.length + 1) state.flags [] rest with
      | some (flags, true, rest) =>
          some
            ({ state with flags := flags }.pushItem
              { regex := .empty, standing := .fixed }, rest)
      | some (flags, false, rest) =>
          some ({ state.openGroup .plain (some state.flags) with flags := flags }, rest)
      | none => none
  | rest => some (openCapture dialect state, rest)

/-- Read what follows a `(`. -/
def openParen? (dialect : Dialect) (state : State) (chars : List Char) :
    Option (State × List Char) :=
  (skip? dialect state.flags chars).bind (openSigned? dialect state)

/-- Repeat the last item. A `?` behind the operator turns the preference around,
and for the backtracking engine a `+` keeps the first way only. -/
def repeatLast? (dialect : Dialect) (state : State) (low : Nat)
    (high : Option Nat) (rest : List Char) : Option (State × List Char) :=
  match state.items with
  | ⟨regex, .free, depth⟩ :: items =>
      let plain := rest.head? != some '?'
      let rest := if plain then rest else rest.drop 1
      let repeated := Regex.iterate regex low high (plain != state.flags.swapped)
      let (item, rest) : Item × List Char :=
        match dialect, rest with
        | .backtracking, '+' :: rest => (⟨.once repeated, .repeated, 0⟩, rest)
        | .backtracking, _ => (⟨repeated, .repeated, 0⟩, rest)
        | .linear, _ => (⟨repeated, .free, depth + 1⟩, rest)
      some ({ state with items := item :: items }, rest)
  | _ => none

/-- Repeat the last item as an operator of one character says. Only the backtracking
engine looks for its marks behind a gap. -/
def repeatBy? (dialect : Dialect) (state : State) (low : Nat) (high : Option Nat)
    (rest : List Char) : Option (State × List Char) :=
  match dialect with
  | .linear => repeatLast? .linear state low high rest
  | .backtracking =>
      (skip? .backtracking state.flags rest).bind
        (repeatLast? .backtracking state low high)

/-- The largest number that the backtracking engine reads. -/
def largestNumber : Nat := 18446744073709551615

/-- Read a number of copies. The linear engine allows blanks around it, and gaps between
its digits. The backtracking engine takes no number that is too large. -/
def readCount? (dialect : Dialect) (flags : Flags) (chars : List Char) :
    Option (Nat × List Char) :=
  match dialect with
  | .linear =>
      let chars := chars.dropWhile Text.isBlank
      let (digits, rest) :=
        takeSpaced flags.verbose Char.isDigit chars.length false chars
      (Text.digitsValue? 10 digits).map fun count => (count, rest.dropWhile Text.isBlank)
  | .backtracking =>
      (readNumber? chars).filter fun (count, _) => decide (count ≤ largestNumber)

/-- Read the upper bound of a repetition, if there is one, and the closing
brace. The largest number is no bound. -/
def readUpper? (dialect : Dialect) (flags : Flags) (chars : List Char) :
    Option (Option Nat × List Char) := do
  match ← skip? dialect flags chars with
  | '\x7d' :: rest => some (none, rest)
  | chars =>
      let (high, rest) ← readCount? dialect flags chars
      match ← skip? dialect flags rest with
      | '\x7d' :: rest => some (if high = largestNumber then none else some high, rest)
      | _ => none

/-- Read the lower bound of a repetition. The backtracking engine can do without it. -/
def readLower? (dialect : Dialect) (flags : Flags) (chars : List Char) :
    Option (Nat × List Char) :=
  match readCount? dialect flags chars, dialect with
  | some found, _ => some found
  | none, .linear => none
  | none, .backtracking => if chars.head? = some ',' then some (0, chars) else none

/-- Read the bounds of a repetition and its closing brace, the opening one being
read. -/
def readBounds? (dialect : Dialect) (flags : Flags) (chars : List Char) :
    Option (Nat × Option Nat × List Char) := do
  let chars ← skip? dialect flags chars
  let (low, rest) ← readLower? dialect flags chars
  match ← skip? dialect flags rest with
  | '\x7d' :: rest => some (low, some low, rest)
  | ',' :: rest =>
      (readUpper? dialect flags rest).map fun (high, rest) => (low, high, rest)
  | _ => none

/-- Read what follows a `{`. -/
def openBrace? (dialect : Dialect) (state : State) (rest : List Char) :
    Option (State × List Char) :=
  let asLiteral := (state.push (literal state.flags '\x7b'), rest)
  match dialect with
  | .linear => do
      let (low, high, rest) ← readBounds? dialect state.flags rest
      if (Regex.iterate .empty low high true).boundsValid then
        repeatLast? dialect state low high (skipBlanks state.flags.verbose rest)
      else none
  | .backtracking =>
      match state.items with
      | [] => some asLiteral
      | ⟨_, .repeated, _⟩ :: _ => some asLiteral
      | _ =>
          match readBounds? dialect state.flags rest with
          | some (low, high, rest) => repeatBy? dialect state low high rest
          | none => some asLiteral

/-- How deep a bracketed class nests. -/
def bracketDepth : Nat := 2

/-- Read the next unit of a pattern. -/
def step? (dialect : Dialect) (state : State) (char : Char) (rest : List Char) :
    Option (State × List Char) :=
  let assert (condition : Assertion) : State :=
    state.pushItem
      { regex := .assertion condition, standing := assertionStanding dialect }
  match char with
  | '(' => if mayNest dialect state then openParen? dialect state rest else none
  | ')' => (closeGroup? dialect state).map fun state => (state, rest)
  | '|' => some (state.nextBranch, rest)
  | '[' =>
      (readClass? dialect state.flags rest).map fun (members, rest) =>
        (state.pushItem
          { regex := .set (.ofClass members)
            standing := .free
            depth := bracketDepth }, rest)
  | '?' => repeatBy? dialect state 0 (some 1) rest
  | '*' => repeatBy? dialect state 0 none rest
  | '+' => repeatBy? dialect state 1 none rest
  | '\x7b' => openBrace? dialect state rest
  | '\\' => do
      let (symbol, rest) ← readEscape? dialect state.flags rest
      match symbol with
      | .char letter => some (state.push (literal state.flags letter), rest)
      | .chars members => some (state.push (.set (.ofClass members)), rest)
      | .assertion condition => some (assert condition, rest)
      | .backref index =>
          if index ≤ state.groups then
            some ({ state with numbered := true }.push (.backref index), rest)
          else none
  | '.' => some (state.push (.set (.ofClass (anyChar state.flags))), rest)
  | '^' => some (assert (startMark state.flags), rest)
  | '$' => some (assert (endMark state.flags), rest)
  | char => some (state.push (literal state.flags char), rest)

/-- Read units until nothing but a gap is left of the pattern. -/
def readUnits? (dialect : Dialect) (fuel : Nat) (state : State) (chars : List Char) :
    Option State :=
  match skip? dialect state.flags chars with
  | none => none
  | some [] => some state
  | some (char :: rest) =>
      match fuel with
      | 0 => none
      | fuel + 1 =>
          match step? dialect state char rest with
          | some (state, rest) => readUnits? dialect fuel state rest
          | none => none

/-- The deepest nesting that the linear engine accepts. -/
def largestDepth : Nat := 250

/-- Whether a pattern may end in a state. -/
def State.mayEnd (state : State) (dialect : Dialect) : Bool :=
  state.frames.isEmpty && state.mayClose dialect &&
    match dialect with
    | .linear => decide (state.body.depth ≤ largestDepth)
    | .backtracking => true

end Parser

/-- Read a pattern in the language of an engine. Every unit takes at least one
character, so the length of the pattern is fuel enough. -/
def parse? (dialect : Dialect) (source : List Char) : Option Regex :=
  match Parser.readUnits? dialect source.length {} source with
  | some state => if state.mayEnd dialect then some state.body.regex else none
  | none => none

end Pattern
end ScriptAudit
