/-!
# Range trees

A finite map from code points to values that is constant on disjoint ranges,
stored as a balanced search tree. The character properties of this library are
range trees built from sorted tables.
-/

namespace ScriptAudit
namespace Text

/-- A search tree whose nodes carry a closed range of numbers and its value. -/
inductive RangeTree (α : Type)
  | leaf
  | node
      (left : RangeTree α)
      (low high : Nat)
      (value : α)
      (right : RangeTree α)

namespace RangeTree

/-- The value of the range that holds a number. -/
def find? : RangeTree α → Nat → Option α
  | .leaf, _ => none
  | .node left low high value right, key =>
      if key < low then left.find? key
      else if high < key then right.find? key
      else some value

@[simp] theorem find?_leaf (key : Nat) :
    (leaf : RangeTree α).find? key = none := rfl

@[simp] theorem find?_node
    (left right : RangeTree α)
    (low high key : Nat)
    (value : α) :
    (node left low high value right).find? key =
      if key < low then left.find? key
      else if high < key then right.find? key
      else some value := rfl

/-- Whether some range holds a number. -/
def contains (tree : RangeTree α) (key : Nat) : Bool :=
  (tree.find? key).isSome

/-- Split a sorted table in the middle, at most `depth` times along a path. -/
def ofSorted : (depth : Nat) → List (Nat × Nat × α) → RangeTree α
  | 0, _ => .leaf
  | depth + 1, table =>
      match table.drop (table.length / 2) with
      | [] => .leaf
      | (low, high, value) :: after =>
          .node (ofSorted depth (table.take (table.length / 2)))
            low high value (ofSorted depth after)

/-- The set of numbers covered by a sorted table of ranges. -/
def ofRanges (ranges : List (Nat × Nat)) : RangeTree Unit :=
  ofSorted 16 (ranges.map fun (low, high) => (low, high, ()))

end RangeTree
end Text
end ScriptAudit
