import ScriptAudit.Pattern.Meaning

/-!
# Preferred matches

Among the matches of an expression that start at the same position, one is
preferred: earlier alternatives before later ones, more copies before fewer where
a repetition is greedy. When it matters where that match ends and what its
groups recorded, the expression is wired into a network of steps. The preferred
way through the network is worked out for every position of a line, from the last
one to the first.

A way visits a step at most once between two characters. A repetition whose body
can match nothing is therefore wired as an optional repetition of at least one
copy, so that an empty copy still counts.
-/

namespace ScriptAudit
namespace Pattern

/-- One end of what a group matched. -/
inductive Slot
  | start (index : Nat)
  | stop (index : Nat)
  deriving Repr, DecidableEq

/-- The index of the group that a slot belongs to. -/
def Slot.group : Slot → Nat
  | .start index => index
  | .stop index => index

/-- The positions recorded for the ends of groups. -/
abbrev Captures := List (Slot × Nat)

namespace Captures

/-- The position recorded for an end of a group. -/
def get? (captures : Captures) (slot : Slot) : Option Nat :=
  captures.lookup slot

/-- Record a position, in place of an older one. -/
def set (captures : Captures) (slot : Slot) (position : Nat) : Captures :=
  (slot, position) :: captures.filter fun entry => entry.1 != slot

/-- Record a position unless there is one already. -/
def setNew (captures : Captures) (slot : Slot) (position : Nat) : Captures :=
  if (captures.get? slot).isSome then captures else (slot, position) :: captures

/-- Forget what some groups matched. -/
def forget (captures : Captures) (groups : List Nat) : Captures :=
  captures.filter fun entry => !groups.contains entry.1.group

end Captures

/-- A way to match: where it ends, and what its groups matched last. -/
structure Way where
  stop : Nat
  captures : Captures

/-- Record a position on a way that continues from there. What is recorded later
on the way stays. -/
def Way.record (way : Way) (slot : Slot) (position : Nat) : Way :=
  { way with captures := way.captures.setNew slot position }

/-- A step of a network. Steps name their successors by index. -/
inductive Step
  | accept
  | consume (chars : CharSet) (next : Nat)
  | check (condition : Assertion) (next : Nat)
  | record (slot : Slot) (next : Nat)
  /-- Two successors, the preferred one first. -/
  | fork (first second : Nat)

/-- Two successors in order of preference. -/
def Step.choice (greedy : Bool) (more rest : Nat) : Step :=
  if greedy then .fork more rest else .fork rest more

/-- A network under construction: its steps, and the one that is entered. -/
structure Wiring where
  steps : Array Step
  entry : Nat

namespace Wiring

/-- Enter a network through a new step. -/
def push (wiring : Wiring) (step : Step) : Wiring :=
  let entry := wiring.steps.size
  ⟨wiring.steps.push step, entry⟩

/-- Put a given number of copies of a body in front. -/
def copies (body : Wiring → Wiring) : Nat → Wiring → Wiring
  | 0, wiring => wiring
  | count + 1, wiring => body (copies body count wiring)

/-- Put at most a given number of copies of a body in front of `exit`. -/
def optional (body : Wiring → Wiring) (greedy : Bool) (exit : Nat) :
    Nat → Wiring → Wiring
  | 0, wiring => wiring
  | count + 1, wiring =>
      let more := body (optional body greedy exit count wiring)
      more.push (.choice greedy more.entry exit)

/-- Put at least one copy of a body in front, and tell where further copies are
chosen. -/
def loop (body : Wiring → Wiring) (greedy : Bool) (wiring : Wiring) :
    Wiring × Nat :=
  let exit := wiring.entry
  let decision := wiring.steps.size
  let more := body (wiring.push .accept)
  let choice := Step.choice greedy more.entry exit
  ({ more with steps := more.steps.setIfInBounds decision choice }, decision)

end Wiring

/-- Put an expression in front of a network. Lookaround, references and
expressions that keep one way have no step of their own and never match. -/
def Regex.wire : Regex → Wiring → Wiring
  | .empty, wiring => wiring
  | .set chars, wiring => wiring.push (.consume chars wiring.entry)
  | .assertion condition, wiring => wiring.push (.check condition wiring.entry)
  | .cat first second, wiring => first.wire (second.wire wiring)
  | .alt first second, wiring =>
      let exit := wiring.entry
      let right := second.wire wiring
      let other := right.entry
      let left := first.wire { right with entry := exit }
      left.push (.fork left.entry other)
  | .iterate body low (some high) greedy, wiring =>
      Wiring.copies body.wire low
        (Wiring.optional body.wire greedy wiring.entry (high - low) wiring)
  | .iterate body 0 none greedy, wiring =>
      let exit := wiring.entry
      let (more, decision) := Wiring.loop body.wire greedy wiring
      if body.consumes then { more with entry := decision }
      else more.push (.choice greedy more.entry exit)
  | .iterate body (low + 1) none greedy, wiring =>
      Wiring.copies body.wire low (Wiring.loop body.wire greedy wiring).1
  | .group (some index) body, wiring =>
      let inner := body.wire (wiring.push (.record (.stop index) wiring.entry))
      inner.push (.record (.start index) inner.entry)
  | .group none body, wiring => body.wire wiring
  | .look .., wiring => { wiring with entry := wiring.steps.size }
  | .backref _, wiring => { wiring with entry := wiring.steps.size }
  | .once _, wiring => { wiring with entry := wiring.steps.size }

/-- The network of an expression. -/
def Regex.network (regex : Regex) : Wiring :=
  regex.wire ⟨#[.accept], 0⟩

/-- The preferred way from a step on, given those from the next position on, and
the steps visited at this position. Every call visits a new step, so `fuel` need
not exceed the number of steps. -/
def explore
    (line : Line)
    (position : Nat)
    (steps : Array Step)
    (ahead : Array (Option Way)) :
    (fuel step : Nat) → (visited : List Nat) → Option Way × List Nat
  | 0, _, visited => (none, visited)
  | fuel + 1, step, visited =>
      if visited.contains step then (none, visited)
      else
        match steps[step]? with
        | none => (none, step :: visited)
        | some .accept => (some ⟨position, []⟩, step :: visited)
        | some (.consume chars next) =>
            (if line.hasAt chars position then ahead.getD next none else none,
              step :: visited)
        | some (.check condition next) =>
            if condition.holds line position then
              explore line position steps ahead fuel next (step :: visited)
            else (none, step :: visited)
        | some (.record slot next) =>
            match explore line position steps ahead fuel next (step :: visited) with
            | (way, visited) => (way.map fun way => way.record slot position, visited)
        | some (.fork first second) =>
            match explore line position steps ahead fuel first (step :: visited) with
            | (some way, visited) => (some way, visited)
            | (none, visited) =>
                explore line position steps ahead fuel second visited

/-- The preferred ways from all steps at a position. -/
def waysAt (line : Line) (position : Nat) (steps : Array Step)
    (ahead : Array (Option Way)) : Array (Option Way) :=
  (Array.range steps.size).map fun step =>
    (explore line position steps ahead (steps.size + 1) step []).1

/-- The preferred ways through a network from each of the first `count`
positions, in front of those from later positions. -/
def Wiring.waysOnto (wiring : Wiring) (line : Line) :
    (count : Nat) → (ahead : Array (Option Way)) → (ways : List (Option Way)) →
      List (Option Way)
  | 0, _, ways => ways
  | position + 1, ahead, ways =>
      let here := waysAt line position wiring.steps ahead
      wiring.waysOnto line position here (here.getD wiring.entry none :: ways)

/-- The preferred way to match an expression from every position of a line. -/
def Regex.ways (line : Line) (regex : Regex) : Array (Option Way) :=
  (regex.network.waysOnto line (line.size + 1) #[] []).toArray

end Pattern
end ScriptAudit
