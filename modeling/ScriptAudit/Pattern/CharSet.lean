import ScriptAudit.Text.Blank
import ScriptAudit.Text.CaseVariant
import ScriptAudit.Text.Category
import ScriptAudit.Text.Digit
import ScriptAudit.Text.Word

/-!
# Character sets

A character class describes a set of characters by ranges, named properties
and set operations. A character set is a class whose answers for ASCII are
worked out in advance, since almost every character of a script is ASCII.
-/

namespace ScriptAudit
namespace Pattern

/-- A description of a set of characters. -/
inductive CharClass
  /-- The characters whose code lies between two codes, both included. -/
  | range (low high : Nat)
  | blank
  | digit
  | word
  /-- The characters of some general categories. -/
  | category (members : List Text.Category)
  | union (left right : CharClass)
  | compl (inner : CharClass)
  /-- The characters of a class and all their case variants. -/
  | folded (inner : CharClass)
  deriving Repr, DecidableEq

namespace CharClass

/-- Whether a character belongs to the described set. -/
def contains : CharClass → Char → Bool
  | .range low high, char => low ≤ char.toNat && char.toNat ≤ high
  | .blank, char => Text.isBlank char
  | .digit, char => Text.isDigit char
  | .word, char => Text.isWord char
  | .category members, char => members.contains (Text.category char)
  | .union left right, char => left.contains char || right.contains char
  | .compl inner, char => !inner.contains char
  | .folded inner, char =>
      inner.contains char || (Text.caseVariants char).any inner.contains

@[simp] theorem contains_union
    (left right : CharClass)
    (char : Char) :
    (union left right).contains char =
      (left.contains char || right.contains char) := rfl

@[simp] theorem contains_compl
    (inner : CharClass)
    (char : Char) :
    (compl inner).contains char = !inner.contains char := rfl

/-- The class of one character. -/
def single (char : Char) : CharClass :=
  .range char.toNat char.toNat

/-- The class without characters. -/
def none : CharClass :=
  .range 1 0

/-- The class of the characters of some ranges. -/
def ofRanges (ranges : List (Char × Char)) : CharClass :=
  ranges.foldr
    (fun (low, high) others => .union (.range low.toNat high.toNat) others) none

/-- The class of all characters. -/
def all : CharClass :=
  .compl none

/-- The characters of both classes. -/
def inter (left right : CharClass) : CharClass :=
  .compl (.union (.compl left) (.compl right))

/-- The characters of the first class that the second lacks. -/
def diff (left right : CharClass) : CharClass :=
  inter left (.compl right)

/-- Every character except a line feed. -/
def notLineFeed : CharClass :=
  .compl (single '\n')

/-- Every character except those that may end a line. -/
def notLineEnd : CharClass :=
  .compl (.union (single '\n') (single '\r'))

end CharClass

/-- A class together with its answers for the ASCII characters. -/
structure CharSet where
  /-- The description of the set. -/
  toClass : CharClass
  /-- Membership of the characters with a code below 128. -/
  ascii : Array Bool
  /-- The table agrees with the description. -/
  ascii_agrees : ∀ code, code < 128 →
    ascii.getD code false = toClass.contains (Char.ofNat code)

namespace CharSet

/-- Work out the ASCII members of a class. -/
def ofClass (toClass : CharClass) : CharSet where
  toClass := toClass
  ascii := Array.ofFn fun code : Fin 128 =>
    toClass.contains (Char.ofNat code.val)
  ascii_agrees := by
    intro code bound
    simp [Array.getD, bound]

/-- Whether a character belongs to the set. -/
def contains (set : CharSet) (char : Char) : Bool :=
  if char.toNat < 128 then set.ascii.getD char.toNat false
  else set.toClass.contains char

/-- The table changes no answer. -/
@[simp] theorem contains_eq
    (set : CharSet)
    (char : Char) :
    set.contains char = set.toClass.contains char := by
  unfold contains
  split
  · rename_i bound
    rw [set.ascii_agrees _ bound, Char.ofNat_toNat]
  · rfl

/-- The set of one character. -/
def single (char : Char) : CharSet :=
  ofClass (.single char)

end CharSet
end Pattern
end ScriptAudit
