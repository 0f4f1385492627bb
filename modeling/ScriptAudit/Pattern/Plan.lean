import ScriptAudit.Pattern.Size

/-!
# Search plans

Before a search the backtracking engine singles out the parts of an expression
that the linear engine can settle in one step. Such a part costs no retry and
leaves no choice open. At both ends of a concatenation these are the parts of
constant width, so that no match is lost; inside a lookaround also parts that
vary in width. A part that is settled matches in its preferred way, but mostly
it is enough to know that it matches at all: its matches all have one width, or
nothing depends on where they end.
-/

namespace ScriptAudit
namespace Pattern

/-- How the backtracking engine searches for an expression, whose settled parts
are given by `α`. -/
inductive Plan (α : Type)
  | pass
  | set (chars : CharSet)
  | assertion (condition : Assertion)
  /-- A part that has to match here; the search goes on `width` characters
  further. -/
  | settled (part : α) (width : Nat)
  /-- A part whose preferred match decides where the search goes on. -/
  | preferred (part : α)
  | cat (first second : Plan α)
  | alt (first second : Plan α)
  | iterate
      (body : Plan α)
      (low : Nat)
      (high : Option Nat)
      (greedy : Bool)
  /-- What the body matches is recorded. -/
  | group (index : Nat) (body : Plan α)
  /-- The body matches, or does not, from `back` characters earlier on. -/
  | look (back : Nat) (negated : Bool) (body : Plan α)
  | backref (index : Nat)
  /-- The first way in which the body matches, and no other. -/
  | once (body : Plan α)

namespace Plan

/-- One plan after the other, in order. -/
def seq : List (Plan α) → Plan α
  | [] => .pass
  | [last] => last
  | first :: rest => .cat first (seq rest)

/-- The plans as alternatives, the preferred one first. -/
def oneOf : List (Plan α) → Plan α
  | [] => .pass
  | [last] => last
  | first :: rest => .alt first (oneOf rest)

/-- Replace the settled parts. -/
def map (change : α → β) : Plan α → Plan β
  | .pass => .pass
  | .set chars => .set chars
  | .assertion condition => .assertion condition
  | .settled part width => .settled (change part) width
  | .preferred part => .preferred (change part)
  | .cat first second => .cat (first.map change) (second.map change)
  | .alt first second => .alt (first.map change) (second.map change)
  | .iterate body low high greedy => .iterate (body.map change) low high greedy
  | .group index body => .group index (body.map change)
  | .look back negated body => .look back negated (body.map change)
  | .backref index => .backref index
  | .once body => .once (body.map change)

end Plan

/-- What is known around a part while its plan is made. -/
structure Context where
  /-- Some reference depends on what the groups record. -/
  recording : Bool
  /-- The search may come back to the part for another way. -/
  resumable : Bool
  /-- Something depends on where the part ends. -/
  observed : Bool

/-- Settle a part in one step, if the linear engine accepts it. -/
def Context.settle? (context : Context) (part : Regex) : Option (Plan Regex) :=
  if !part.isAcceptable then none
  else if context.recording && !part.groups.isEmpty then some (.preferred part)
  else
    match part, part.width? with
    | .empty, _ => some .pass
    | .set chars, _ => some (.set chars)
    | _, some width => some (.settled part width)
    | _, none => some (if context.observed then .preferred part else .settled part 0)

/-- Settle a sequence of parts in one step. -/
def Context.settleAll? (context : Context) :
    List Regex → Option (List (Plan Regex))
  | [] => some []
  | parts => (context.settle? (Regex.seq parts)).map ([·])

/-- A part with its plan, if it has one. -/
abbrev PlannedPart := Regex × Option (Plan Regex)

/-- Whether a part can be settled in one step without losing a match. -/
def PlannedPart.isFixed (part : PlannedPart) : Bool :=
  !part.1.isHard && part.1.width?.isSome

/-- Arrange the parts of a concatenation: what can be settled at its start, the
rest, and what can be settled at its end. -/
def Context.arrange? (context : Context) (parts : List PlannedPart) :
    Option (Plan Regex) := do
  let front := parts.takeWhile (·.isFixed)
  let rest := parts.drop front.length
  let back :=
    (rest.reverse.takeWhile fun part =>
      if context.resumable then part.isFixed else !part.1.isHard).reverse
  let middle ← (rest.take (rest.length - back.length)).mapM Prod.snd
  let front ← context.settleAll? (front.map (·.1))
  let back ← context.settleAll? (back.map (·.1))
  return Plan.seq (front ++ middle ++ back)

/-- Leave the choice between alternatives to the search. -/
def chooseAmong? (branches : List PlannedPart) : Option (Plan Regex) :=
  (branches.mapM Prod.snd).map Plan.oneOf

/-- The plan of a part that is settled as a whole unless the search may come back
to it or it is too hard. -/
def Context.finish? (context : Context) (part : Regex)
    (plan : Option (Plan Regex)) : Option (Plan Regex) :=
  if !context.resumable && !part.isHard then context.settle? part else plan

/-- The plan of an expression, together with those of its parts. -/
structure Outline where
  plan : Option (Plan Regex)
  /-- The parts of a concatenation, planned so that the search may come back. -/
  parts : List PlannedPart
  /-- The alternatives of an alternation. -/
  branches : List PlannedPart

/-- An expression as its own only part. -/
def Outline.single (regex : Regex) (plan : Option (Plan Regex)) : Outline :=
  ⟨plan, [(regex, plan)], [(regex, plan)]⟩

/-- A lookbehind with one alternative, which has to have one width. -/
def lookBehind? (negated : Bool) (branch : PlannedPart) : Option (Plan Regex) :=
  match branch.1.width?, branch.2 with
  | some width, some plan => some (.look width negated plan)
  | _, _ => none

/-- Look behind for each of several alternatives. -/
def lookBehindAny? (negated : Bool) (branches : List PlannedPart) :
    Option (Plan Regex) :=
  (branches.mapM (lookBehind? negated)).map
    (if negated then Plan.seq else Plan.oneOf)

/-- Plan an expression and its parts. -/
def Regex.outline (context : Context) : Regex → Outline
  | .empty => .single .empty (context.finish? .empty (some .pass))
  | .set chars => .single (.set chars) (some (.set chars))
  | .assertion condition =>
      .single (.assertion condition)
        (context.finish? (.assertion condition) (some (.assertion condition)))
  | .cat first second =>
      let inside := { context with resumable := true }
      let parts :=
        (first, (first.outline inside).plan) :: (second.outline inside).parts
      let plan := context.finish? (.cat first second) (context.arrange? parts)
      ⟨plan, parts, [(.cat first second, plan)]⟩
  | .alt first second =>
      let branches : List PlannedPart :=
        (first, (first.outline context).plan) :: (second.outline context).branches
      let plan := context.finish? (.alt first second) (chooseAmong? branches)
      ⟨plan, [(.alt first second, plan)], branches⟩
  | .iterate body low high greedy =>
      let inside :=
        if low = 0 && high = some 1 then context
        else { context with resumable := true }
      .single (.iterate body low high greedy)
        (context.finish? (.iterate body low high greedy)
          ((body.outline inside).plan.map fun plan =>
            .iterate plan low high greedy))
  | .group (some index) body =>
      let inside := { context with observed := context.observed || context.recording }
      .single (.group (some index) body)
        (context.finish? (.group (some index) body)
          ((body.outline inside).plan.map fun plan =>
            if context.recording then .group index plan else plan))
  | .group none body =>
      .single (.group none body) (body.outline context).plan
  | .look side negated body =>
      let inside := { context with resumable := false, observed := false }
      let inner := body.outline inside
      .single (.look side negated body)
        (match side with
        | .ahead => inner.plan.map (.look 0 negated)
        | .behind =>
            if body.width?.isSome then lookBehind? negated (body, inner.plan)
            else lookBehindAny? negated inner.branches)
  | .backref index => .single (.backref index) (some (.backref index))
  | .once body =>
      let inside := { context with resumable := false, observed := true }
      .single (.once body) ((body.outline inside).plan.map .once)

/-- Plan the search for an expression that the linear engine cannot settle as a
whole. -/
def Regex.plan? (regex : Regex) : Option (Plan Regex) :=
  (regex.outline ⟨regex.refersBack, true, false⟩).plan

end Pattern
end ScriptAudit
