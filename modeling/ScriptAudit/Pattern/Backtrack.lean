import ScriptAudit.Pattern.Origins
import ScriptAudit.Pattern.Plan
import ScriptAudit.Pattern.Preference

/-!
# Backtracking search

The backtracking engine tries the ways of a plan in order of preference. Whenever
a way fails it goes back to the latest open choice, and after a million such
retries, or with a million choices open at once, it gives up on the line.

The search is written in continuation-passing style: `Plan.run` is given the
goal that has to be reached after the plan has been carried out.
-/

namespace ScriptAudit
namespace Pattern

/-- What a settled part has to offer on one line, worked out when it is first
needed. -/
structure Prospect where
  /-- The groups whose matches the part records. -/
  groups : List Nat
  /-- For every position, whether the part matches from there. -/
  starts : Thunk (Array Bool)
  /-- For every position, the preferred way to match from there. -/
  ways : Thunk (Array (Option Way))

/-- The set of some positions of a line as a table. -/
def tabulate (line : Line) (members : List Nat) : Array Bool :=
  members.foldl (fun table position => table.setIfInBounds position true)
    (Array.replicate (line.size + 1) false)

/-- What a part has to offer on a line. -/
def Regex.prospect (line : Line) (part : Regex) : Prospect where
  groups := part.groups
  starts := Thunk.mk fun _ => tabulate line (part.origins line (positions line))
  ways := Thunk.mk fun _ => part.ways line

/-- The situation of a search between two steps. -/
structure Spot where
  /-- The position up to which the line has been matched. -/
  position : Nat
  captures : Captures
  /-- The number of open choices. -/
  pending : Nat

/-- The reasons for giving up on a line. -/
inductive Abort
  | retries
  | choices
  deriving Repr, DecidableEq

/-- The end of a search. Unless it was given up, `left` retries are left. -/
inductive Outcome
  | matched (spot : Spot) (left : Nat)
  | failed (left : Nat)
  | aborted (reason : Abort)

/-- What remains to be done from a spot on, with a number of retries left. -/
abbrev Goal := Spot → Nat → Outcome

/-- The largest number of retries, and of choices open at once. -/
def searchLimit : Nat := 1000000

/-- Nothing remains to be done. -/
def Goal.done : Goal :=
  fun spot left => .matched spot left

/-- Go back to an open choice, which costs one retry. -/
def retry (left : Nat) (resume : Nat → Outcome) : Outcome :=
  match left with
  | 0 => .aborted .retries
  | left + 1 => resume left

/-- Open choices, unless too many are open already. -/
def openChoices
    (spot : Spot)
    (count : Nat)
    (proceed : Spot → Outcome) : Outcome :=
  if searchLimit < spot.pending + count then .aborted .choices
  else proceed { spot with pending := spot.pending + count }

/-- Try the first goal, and if it fails the second one. -/
def choose (first second : Goal) : Goal :=
  fun spot left =>
    openChoices spot 1 fun opened =>
      match first opened left with
      | .failed left => retry left (second spot)
      | outcome => outcome

/-- Put a goal behind a given number of copies of a body. -/
def copies (body : Goal → Goal) : Nat → Goal → Goal
  | 0, goal => goal
  | count + 1, goal => body (copies body count goal)

/-- At most a given number of further copies of a body. -/
def furtherUpTo (body : Goal → Goal) (greedy : Bool) (goal : Goal) :
    Nat → Goal
  | 0 => goal
  | count + 1 =>
      let more := body (furtherUpTo body greedy goal count)
      if greedy then choose more goal else choose goal more

/-- Any number of further copies of a body. A copy that matches nothing is not
followed by another one, so `fuel` copies suffice when it exceeds the number of
characters left. -/
def further (body : Goal → Goal) (greedy : Bool) (goal : Goal) :
    (fuel : Nat) → Goal
  | 0 => goal
  | fuel + 1 => fun spot =>
      let more := body fun next left =>
        if next.position ≤ spot.position then .failed left
        else further body greedy goal fuel next left
      if greedy then choose more goal spot else choose goal more spot

/-- Extend a run of `length` characters of a set that ends at a position by at
most `limit` characters. -/
def extendRun (line : Line) (chars : CharSet) :
    (limit position length : Nat) → Nat
  | 0, _, length => length
  | limit + 1, position, length =>
      if line.hasAt chars position then
        extendRun line chars limit (position + 1) (length + 1)
      else length

/-- The number of consecutive characters of a set from a position on, at most
`limit`. -/
def runLength (line : Line) (chars : CharSet) (position limit : Nat) : Nat :=
  extendRun line chars limit position 0

/-- Try a goal behind a run of characters, then behind shorter and shorter
ones. -/
def shorten (goal : Goal) (spot : Spot) : (length left : Nat) → Outcome
  | 0, left => goal spot left
  | length + 1, left =>
      let reached :=
        { spot with
          position := spot.position + (length + 1)
          pending := spot.pending + (length + 1) }
      match goal reached left with
      | .failed left => retry left (shorten goal spot length)
      | outcome => outcome

/-- As many characters of a set as possible, at most `limit`. Every character
leaves a choice open, and the attempt at one more character costs a retry. -/
def takeRun
    (line : Line)
    (chars : CharSet)
    (limit : Option Nat)
    (goal : Goal) : Goal :=
  fun spot left =>
    let most := limit.getD (line.size + 1)
    let length := runLength line chars spot.position most
    if length = most then
      openChoices spot length fun _ => shorten goal spot length left
    else
      openChoices spot (length + 1) fun _ => retry left (shorten goal spot length)

/-- Try a goal behind no character of a set, then behind more and more of them,
at most `fuel`. -/
def lengthen (line : Line) (chars : CharSet) (goal : Goal) :
    (fuel : Nat) → Goal
  | 0, spot, left => goal spot left
  | fuel + 1, spot, left =>
      openChoices spot 1 fun opened =>
        match goal opened left with
        | .failed left =>
            retry left fun left =>
              if line.hasAt chars spot.position then
                lengthen line chars goal fuel
                  { spot with position := spot.position + 1 } left
              else .failed left
        | outcome => outcome

/-- Whether the next `length` characters from two positions on are the same,
letter case included. -/
def agree (line : Line) (left right : Nat) : (length : Nat) → Bool
  | 0 => true
  | length + 1 =>
      match line.charAt? left, line.charAt? right with
      | some first, some second =>
          first == second && agree line (left + 1) (right + 1) length
      | _, _ => false

/-- Carry out a plan and then reach a goal. -/
def Plan.run (line : Line) : Plan Prospect → Goal → Goal
  | .pass, goal => goal
  | .set chars, goal => fun spot left =>
      if line.hasAt chars spot.position then
        goal { spot with position := spot.position + 1 } left
      else .failed left
  | .assertion condition, goal => fun spot left =>
      if condition.holds line spot.position then goal spot left
      else .failed left
  | .settled part width, goal => fun spot left =>
      if part.starts.get.getD spot.position false then
        goal { spot with position := spot.position + width } left
      else .failed left
  | .preferred part, goal => fun spot left =>
      match part.ways.get.getD spot.position none with
      | some way =>
          goal
            { spot with
              position := way.stop
              captures := way.captures ++ spot.captures.forget part.groups }
            left
      | none => .failed left
  | .cat first second, goal => first.run line (second.run line goal)
  | .alt first second, goal => choose (first.run line goal) (second.run line goal)
  | .iterate (.set chars) low high greedy, goal =>
      let body : Goal → Goal := (Plan.set chars).run line
      let limit := high.map (· - low)
      copies body (min low (high.getD low))
        (if greedy then takeRun line chars limit goal
        else lengthen line chars goal (limit.getD (line.size + 1)))
  | .iterate body low high greedy, goal =>
      copies (body.run line) (min low (high.getD low))
        (match high with
        | some bound => furtherUpTo (body.run line) greedy goal (bound - low)
        | none => further (body.run line) greedy goal (line.size + 1))
  | .group index body, goal => fun spot =>
      body.run line
        (fun inner => goal
          { inner with
            captures := inner.captures.set (.stop index) inner.position })
        { spot with captures := spot.captures.set (.start index) spot.position }
  | .look back false body, goal => fun spot left =>
      if back ≤ spot.position then
        body.run line (fun inner => goal { inner with position := spot.position })
          { spot with position := spot.position - back } left
      else .failed left
  | .look back true body, goal => fun spot left =>
      openChoices spot 1 fun opened =>
        let outcome :=
          if back ≤ spot.position then
            body.run line Goal.done
              { opened with position := spot.position - back } left
          else .failed left
        match outcome with
        | .matched _ left => .failed left
        | .failed left => retry left (goal spot)
        | .aborted reason => .aborted reason
  | .backref index, goal => fun spot left =>
      match spot.captures.get? (.start index), spot.captures.get? (.stop index) with
      | some start, some stop =>
          if agree line start spot.position (stop - start) then
            goal { spot with position := spot.position + (stop - start) } left
          else .failed left
      | _, _ => .failed left
  | .once body, goal => fun spot left =>
      match body.run line Goal.done spot left with
      | .matched inner left => goal { inner with pending := spot.pending } left
      | outcome => outcome

/-- Look for a match from a position on, one start after the other. Every start
that fails costs a retry. -/
def Plan.searchFrom (line : Line) (plan : Plan Prospect) :
    (starts position left : Nat) → Outcome
  | 0, _, left => .failed left
  | starts + 1, position, left =>
      match plan.run line Goal.done ⟨position, [], 1⟩ left with
      | .failed left => retry left (plan.searchFrom line starts (position + 1))
      | outcome => outcome

/-- Look for a match anywhere in a line. -/
def Plan.search (line : Line) (plan : Plan Regex) : Outcome :=
  (plan.map (Regex.prospect line)).searchFrom line (line.size + 1) 0 searchLimit

end Pattern
end ScriptAudit
