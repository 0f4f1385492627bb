import ScriptAudit.Pattern.Regex

/-!
# The meaning of an expression

`Regex.Matches` relates the two ends of every part of a line that an expression
matches, in the context of the whole line. It says nothing about how a match is
found or which of several is preferred. References to groups and expressions
that keep only their first way depend on the path of the search, so the relation
holds no pair for them.
-/

namespace ScriptAudit
namespace Pattern

/-- The characters of one line, or of any text that is matched as a whole. -/
abbrev Line := Array Char

/-- The character at a position, if there is one. -/
@[inline] def Line.charAt? (chars : Line) (position : Nat) : Option Char :=
  chars[position]?

/-- Whether a character of a set stands at a position. -/
@[inline] def Line.hasAt (line : Line) (chars : CharSet) (position : Nat) : Bool :=
  (line.charAt? position).any chars.contains

/-- Whether the character before a position belongs to a word. -/
def wordBefore (line : Line) (position : Nat) : Bool :=
  match position with
  | 0 => false
  | previous + 1 => (line.charAt? previous).any Text.isWord

/-- Whether the character at a position belongs to a word. -/
def wordAt (line : Line) (position : Nat) : Bool :=
  (line.charAt? position).any Text.isWord

/-- Whether a condition holds at a position of a line. -/
def Assertion.holds (line : Line) (position : Nat) : Assertion → Bool
  | .textStart => position = 0
  | .textEnd => position = line.size
  | .lineStart =>
      match position with
      | 0 => true
      | previous + 1 => line.charAt? previous = some '\n'
  | .lineEnd => position = line.size || line.charAt? position = some '\n'
  | .anyLineStart =>
      match position with
      | 0 => true
      | previous + 1 =>
          line.charAt? previous = some '\n' ||
            line.charAt? previous = some '\r' && !(line.charAt? position = some '\n')
  | .anyLineEnd =>
      position = line.size || line.charAt? position = some '\r' ||
        line.charAt? position = some '\n' &&
          (position = 0 || !(line.charAt? (position - 1) = some '\r'))
  | .wordBoundary => wordBefore line position != wordAt line position
  | .notWordBoundary => wordBefore line position == wordAt line position
  | .wordStart => !wordBefore line position && wordAt line position
  | .wordEnd => wordBefore line position && !wordAt line position
  | .noWordBefore => !wordBefore line position
  | .noWordAfter => !wordAt line position

/-- A chain of a given number of steps. -/
def Chain (step : Nat → Nat → Prop) : Nat → Nat → Nat → Prop
  | 0, start, stop => start = stop
  | count + 1, start, stop =>
      ∃ middle, step start middle ∧ Chain step count middle stop

/-- `Matches line regex start stop`: the expression matches the part of the line
from `start` to `stop`. -/
def Regex.Matches (line : Line) : Regex → Nat → Nat → Prop
  | .empty, start, stop => start = stop
  | .set chars, start, stop =>
      stop = start + 1 ∧ ∃ char, line.charAt? start = some char ∧ chars.contains char
  | .assertion condition, start, stop =>
      start = stop ∧ condition.holds line start
  | .cat first second, start, stop =>
      ∃ middle, first.Matches line start middle ∧
        second.Matches line middle stop
  | .alt first second, start, stop =>
      first.Matches line start stop ∨ second.Matches line start stop
  | .iterate body low high _, start, stop =>
      ∃ count, min low (high.getD low) ≤ count ∧
        (∀ bound ∈ high, count ≤ bound) ∧
        Chain (body.Matches line) count start stop
  | .group _ body, start, stop => body.Matches line start stop
  | .look .ahead negated body, start, stop =>
      start = stop ∧
        ((∃ reached, body.Matches line start reached) ↔ negated = false)
  | .look .behind negated body, start, stop =>
      start = stop ∧
        ((∃ origin, origin ≤ start ∧ body.Matches line origin start) ↔
          negated = false)
  | .backref _, _, _ => False
  | .once _, _, _ => False

/-- The expression matches some part of the line. -/
def Regex.Occurs (line : Line) (regex : Regex) : Prop :=
  ∃ start stop, start ≤ stop ∧ stop ≤ line.size ∧
    regex.Matches line start stop

end Pattern
end ScriptAudit
