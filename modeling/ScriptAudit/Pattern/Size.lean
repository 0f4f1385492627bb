import ScriptAudit.Pattern.Regex

/-!
# The size of expressions

The linear engine turns an expression into an automaton over octets, with a copy
of the body for every repetition that is counted out, and refuses an automaton
that takes too much room. The room is estimated here from the kinds of classes
and the counts of their copies.
-/

namespace ScriptAudit
namespace Pattern

/-- The room, in octets, of one state of an automaton. -/
def stateSize : Nat := 32

/-- The room that the characters of every length in octets take together. -/
def everythingSize : Nat := 1000

/-- About the room that a class takes: a state for a range of ASCII, several for
a longer encoding, and as many as its ranges need for a named property. -/
def CharClass.size : CharClass → Nat
  | .range _ high => if high < 128 then stateSize else 4 * stateSize
  | .blank => 700
  | .digit => 5000
  | .word => 50000
  | .category members => 70 * Text.categoryRangeCount members
  | .union left right => left.size + right.size
  | .compl inner => everythingSize + inner.size
  | .folded inner => stateSize + inner.size

/-- About the room that a set takes. One with all of ASCII is mostly a set of
everything. -/
def CharSet.size (set : CharSet) : Nat :=
  if (List.range 128).all fun code => set.toClass.contains (Char.ofNat code) then
    everythingSize
  else set.toClass.size

namespace Regex

/-- The number of copies of its body that a repetition is counted out to. A body
that takes no character is not repeated. -/
def copies (body : Regex) (low : Nat) (high : Option Nat) : Nat :=
  if body.width? = some 0 then 1 else high.getD (max low 1)

/-- About the room that an expression takes. -/
def size : Regex → Nat
  | .empty => stateSize
  | .set chars => chars.size
  | .assertion _ => stateSize
  | .cat first second => first.size + second.size
  | .alt first second => stateSize + first.size + second.size
  | .iterate body low high _ =>
      let count := body.copies low high
      count * body.size + (count - low + 1) * stateSize
  | .group none body => body.size
  | .group (some _) body => 2 * stateSize + body.size
  | .look _ _ body => body.size
  | .backref _ => stateSize
  | .once body => body.size

/-- The room that the linear engine allows. -/
def largestSize : Nat := 10485760

/-- Whether the linear engine accepts an expression: the bounds of its repetitions
are valid and it does not take too much room. -/
def isAcceptable (regex : Regex) : Bool :=
  regex.boundsValid && decide (regex.size ≤ largestSize)

end Regex
end Pattern
end ScriptAudit
