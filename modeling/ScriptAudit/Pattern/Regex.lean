import ScriptAudit.Pattern.CharSet

/-!
# Regular expressions

The expressions that rule patterns denote, with letter case already resolved
into character sets. Besides the regular operators there are assertions,
lookaround, references to what a group matched, and expressions that keep only
their first way to match.

Concatenations and alternations nest to the right. A part in parentheses that
capture nothing is a group without an index: it means what it encloses, but it
stays one part of what is around it.
-/

namespace ScriptAudit
namespace Pattern

/-- A condition on a position of a line. -/
inductive Assertion
  | textStart
  | textEnd
  | lineStart
  | lineEnd
  /-- The start of a line, where a carriage return ends lines, too. -/
  | anyLineStart
  /-- The end of a line, where a carriage return ends lines, too. -/
  | anyLineEnd
  | wordBoundary
  | notWordBoundary
  | wordStart
  | wordEnd
  /-- No word character stands in front of the position. -/
  | noWordBefore
  /-- No word character stands behind the position. -/
  | noWordAfter
  deriving Repr, DecidableEq

/-- Whether a condition depends on which characters belong to words. -/
def Assertion.isWordwise : Assertion → Bool
  | .textStart => false
  | .textEnd => false
  | .lineStart => false
  | .lineEnd => false
  | .anyLineStart => false
  | .anyLineEnd => false
  | _ => true

/-- The direction in which a lookaround reads. -/
inductive Side
  | ahead
  | behind
  deriving Repr, DecidableEq

/-- A regular expression over characters. -/
inductive Regex
  | empty
  | set (chars : CharSet)
  | assertion (condition : Assertion)
  | cat (first second : Regex)
  | alt (first second : Regex)
  /-- Between `low` and `high` copies; without `high` there is no upper bound. -/
  | iterate
      (body : Regex)
      (low : Nat)
      (high : Option Nat)
      (greedy : Bool)
  /-- A part in parentheses; with an index, what it matches is recorded. -/
  | group (index : Option Nat) (body : Regex)
  | look (side : Side) (negated : Bool) (body : Regex)
  | backref (index : Nat)
  /-- The first way in which the body matches, and no other. -/
  | once (body : Regex)

namespace Regex

/-- One expression after the other, in order. -/
def seq : List Regex → Regex
  | [] => .empty
  | [last] => last
  | first :: rest => .cat first (seq rest)

/-- The expressions as alternatives, the preferred one first. -/
def oneOf : List Regex → Regex
  | [] => .empty
  | [last] => last
  | first :: rest => .alt first (oneOf rest)

/-- An expression without the parentheses around it that capture nothing. -/
def bare : Regex → Regex
  | .group none body => body.bare
  | other => other

/-- The one length of everything an expression matches, if there is one. -/
def width? : Regex → Option Nat
  | .empty => some 0
  | .set _ => some 1
  | .assertion _ => some 0
  | .cat first second =>
      match first.width?, second.width? with
      | some left, some right => some (left + right)
      | _, _ => none
  | .alt first second =>
      match first.width?, second.width? with
      | some left, some right => if left = right then some left else none
      | _, _ => none
  | .iterate body low high _ =>
      match body.width? with
      | some width => if high = some low then some (width * low) else none
      | none => none
  | .group _ body => body.width?
  | .look .. => some 0
  | .backref _ => none
  | .once body => body.width?

/-- Whether an expression always takes at least one character, references
counting as nothing. -/
def consumes : Regex → Bool
  | .empty => false
  | .set _ => true
  | .assertion _ => false
  | .cat first second => first.consumes || second.consumes
  | .alt first second => first.consumes && second.consumes
  | .iterate body low _ _ => body.consumes && decide (0 < low)
  | .group _ body => body.consumes
  | .look .. => false
  | .backref _ => false
  | .once body => body.consumes

/-- Whether an expression needs the backtracking engine: it looks around, refers
to a group, keeps only one way, or asks for a word boundary. -/
def isHard : Regex → Bool
  | .empty => false
  | .set _ => false
  | .assertion condition => condition.isWordwise
  | .cat first second => first.isHard || second.isHard
  | .alt first second => first.isHard || second.isHard
  | .iterate body _ _ _ => body.isHard
  | .group _ body => body.isHard
  | .look .. => true
  | .backref _ => true
  | .once _ => true

/-- Whether an expression contains a lookaround. -/
def looksAround : Regex → Bool
  | .cat first second => first.looksAround || second.looksAround
  | .alt first second => first.looksAround || second.looksAround
  | .iterate body _ _ _ => body.looksAround
  | .group _ body => body.looksAround
  | .look .. => true
  | .once body => body.looksAround
  | _ => false

/-- Whether an expression contains a reference to a group. -/
def refersBack : Regex → Bool
  | .cat first second => first.refersBack || second.refersBack
  | .alt first second => first.refersBack || second.refersBack
  | .iterate body _ _ _ => body.refersBack
  | .group _ body => body.refersBack
  | .look _ _ body => body.refersBack
  | .backref _ => true
  | .once body => body.refersBack
  | _ => false

/-- Whether an expression contains a repetition without an upper bound. -/
def isUnbounded : Regex → Bool
  | .cat first second => first.isUnbounded || second.isUnbounded
  | .alt first second => first.isUnbounded || second.isUnbounded
  | .iterate body _ high _ => high.isNone || body.isUnbounded
  | .group _ body => body.isUnbounded
  | .once body => body.isUnbounded
  | _ => false

/-- The indices of the groups whose matches an expression records. -/
def groups : Regex → List Nat
  | .cat first second => first.groups ++ second.groups
  | .alt first second => first.groups ++ second.groups
  | .iterate body _ _ _ => body.groups
  | .group index body => index.toList ++ body.groups
  | .look _ _ body => body.groups
  | .once body => body.groups
  | _ => []

/-- The largest count of copies that the linear engine accepts. -/
def largestCount : Nat := 4294967295

/-- Whether the linear engine accepts the bounds of every repetition: they are
not too large, and the upper one is not below the lower one. -/
def boundsValid : Regex → Bool
  | .cat first second => first.boundsValid && second.boundsValid
  | .alt first second => first.boundsValid && second.boundsValid
  | .iterate body low high _ =>
      body.boundsValid && decide (low ≤ largestCount) &&
        (high.all fun bound => decide (low ≤ bound) && decide (bound ≤ largestCount))
  | .group _ body => body.boundsValid
  | .look _ _ body => body.boundsValid
  | .once body => body.boundsValid
  | _ => true

end Regex
end Pattern
end ScriptAudit
