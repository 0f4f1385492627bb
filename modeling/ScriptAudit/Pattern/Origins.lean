import ScriptAudit.Pattern.Meaning

/-!
# Sets of origins

The linear engine follows all matches at once, from their ends to their starts:
for a set of positions it computes the set of their origins, the positions from
which an expression reaches one of them. Sets are strictly decreasing lists. No
position is visited twice for the same operator, so the work stays proportional
to the line for the repetitions that rules use.
-/

namespace ScriptAudit
namespace Pattern

/-- Merge two decreasing lists of positions behind a reversed list of larger
ones. The work ends as soon as one of the two is used up. -/
def mergeOnto (merged : List Nat) : (left right : List Nat) → List Nat
  | [], right => merged.reverseAux right
  | left, [] => merged.reverseAux left
  | first :: left, second :: right =>
      if second < first then mergeOnto (first :: merged) left (second :: right)
      else if first < second then mergeOnto (second :: merged) (first :: left) right
      else mergeOnto (first :: merged) left right
termination_by left right => left.length + right.length

theorem mem_mergeOnto
    (merged left right : List Nat)
    (position : Nat) :
    position ∈ mergeOnto merged left right ↔
      position ∈ merged ∨ position ∈ left ∨ position ∈ right := by
  fun_induction mergeOnto merged left right with
  | case1 merged right => simp [List.reverseAux_eq]
  | case2 merged left => simp [List.reverseAux_eq]
  | case3 merged first left second right smaller ih => rw [ih]; grind
  | case4 merged first left second right smaller greater ih => rw [ih]; grind
  | case5 merged first left second right smaller greater ih => rw [ih]; grind

/-- The union of two decreasing lists of positions. -/
def union (left right : List Nat) : List Nat :=
  mergeOnto [] left right

@[simp] theorem mem_union
    (left right : List Nat)
    (position : Nat) :
    position ∈ union left right ↔ position ∈ left ∨ position ∈ right := by
  simp [union, mem_mergeOnto]

/-- The positions of a decreasing list that another one lacks, behind a reversed
list of larger ones. -/
def lackingOnto (kept : List Nat) : (left right : List Nat) → List Nat
  | [], _ => kept.reverse
  | left, [] => kept.reverseAux left
  | first :: left, second :: right =>
      if second < first then lackingOnto (first :: kept) left (second :: right)
      else if first < second then lackingOnto kept (first :: left) right
      else lackingOnto kept left right
termination_by left right => left.length + right.length

/-- The positions of a decreasing list that another one lacks. -/
def lacking (left right : List Nat) : List Nat :=
  lackingOnto [] left right

/-- Collect the positions that any number of steps back lead to, the highest
pending position first, until `fuel` positions have been visited. -/
def sweep (step : Nat → List Nat) :
    (fuel : Nat) → (pending visited : List Nat) → List Nat
  | 0, _, visited => visited.reverse
  | _, [], visited => visited.reverse
  | fuel + 1, position :: rest, visited =>
      sweep step fuel
        (union ((step position).filter (· < position)) rest)
        (position :: visited)

/-- Collect the positions that at most `fuel` steps back lead to, all pending
positions at once. Steps never lead forward, so the visited positions above all
fresh ones are set aside, the lowest first. -/
def spread (step : List Nat → List Nat) :
    (fuel : Nat) → (pending visited aside : List Nat) → List Nat
  | 0, _, visited, aside => aside.reverseAux visited
  | fuel + 1, pending, visited, aside =>
      match lacking (step pending) visited with
      | [] => aside.reverseAux visited
      | top :: rest =>
          let (above, below) := visited.span (top < ·)
          spread step fuel (top :: rest) (union below (top :: rest))
            (above.reverseAux aside)

/-- Apply a step to a set a given number of times. -/
def times (step : List Nat → List Nat) : Nat → List Nat → List Nat
  | 0, positions => positions
  | _ + 1, [] => []
  | count + 1, positions => times step count (step positions)

/-- All positions of a line, the one behind its last character first. -/
def positions (line : Line) : List Nat :=
  (List.range (line.size + 1)).reverse

/-- The positions from which an expression reaches some position of a set.
References to groups and expressions that keep one way reach nothing. -/
def Regex.origins (line : Line) : Regex → List Nat → List Nat
  | .empty, ends => ends
  | .set chars, ends =>
      ends.filterMap fun stop =>
        match stop with
        | 0 => none
        | start + 1 => if line.hasAt chars start then some start else none
  | .assertion condition, ends =>
      ends.filter fun position => condition.holds line position
  | .cat first second, ends =>
      match second.origins line ends with
      | [] => []
      | middles => first.origins line middles
  | .alt first second, ends =>
      union (first.origins line ends) (second.origins line ends)
  | .iterate body low high _, ends =>
      times (body.origins line) (min low (high.getD low))
        (match high with
        | some bound => spread (body.origins line) (bound - low) ends ends []
        | none =>
            if body.isUnbounded then
              spread (body.origins line) (line.size + 1) ends ends []
            else
              sweep (fun position => body.origins line [position])
                (line.size + 1) ends [])
  | .group _ body, ends => body.origins line ends
  | .look .ahead false body, ends =>
      lacking ends (lacking ends (body.origins line (positions line)))
  | .look .ahead true body, ends =>
      lacking ends (body.origins line (positions line))
  | .look .behind negated body, ends =>
      ends.filter fun position =>
        (body.origins line [position]).isEmpty == negated
  | .backref _, _ => []
  | .once _, _ => []

/-- Whether an expression matches some part of a line. -/
def Regex.found (line : Line) (regex : Regex) : Bool :=
  !(regex.origins line (positions line)).isEmpty

end Pattern
end ScriptAudit
