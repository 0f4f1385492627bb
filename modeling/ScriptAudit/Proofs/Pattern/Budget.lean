import ScriptAudit.Proofs.Pattern.Occurrence

/-!
# Searches within the limits

A backtracking search is given up when it runs out of retries or holds too many choices
open. How many of them a plan can need follows from its operators and from the length of
the line: a choice tries both of its sides and retries once, and a run of characters
tries what follows behind each of its lengths. A search that can afford this many is not
given up, so on short lines the answer of a rule is the one its expression gives.
-/

namespace ScriptAudit
namespace Pattern

/-- The retries and the open choices that a search needs at most. -/
structure Budget where
  retries : Nat
  choices : Nat

namespace Budget

/-- Nothing is needed where nothing remains to be done. -/
def none : Budget := ⟨0, 0⟩

/-- Trying one goal and then another one. -/
def choice (first second : Budget) : Budget where
  retries := first.retries + second.retries + 1
  choices := max first.choices second.choices + 1

/-- Trying a goal behind runs of at most `most` characters. -/
def run (most : Nat) (goal : Budget) : Budget where
  retries := (most + 1) * (goal.retries + 1)
  choices := most + 1 + goal.choices

/-- Trying a goal behind at most `count` copies of a body. -/
def further (body : Budget → Budget) (goal : Budget) : (count : Nat) → Budget
  | 0 => goal
  | count + 1 => choice (body (further body goal count)) goal

/-- Putting a given number of copies of a body in front. -/
def copies (body : Budget → Budget) : (count : Nat) → Budget → Budget
  | 0, goal => goal
  | count + 1, goal => body (copies body count goal)

end Budget

/-- What a plan needs on a line of a given length, and what follows it. -/
def Plan.budget (size : Nat) : Plan α → Budget → Budget
  | .pass, goal => goal
  | .set _, goal => goal
  | .assertion _, goal => goal
  | .settled .., goal => goal
  | .preferred _, goal => goal
  | .cat first second, goal => first.budget size (second.budget size goal)
  | .alt first second, goal => .choice (first.budget size goal) (second.budget size goal)
  | .iterate (.set _) low high _, goal =>
      .run ((high.map (· - low)).getD (size + 1)) goal
  | .iterate body low high _, goal =>
      .copies (body.budget size) (min low (high.getD low))
        (.further (body.budget size) goal ((high.map (· - low)).getD (size + 1)))
  | .group _ body, goal => body.budget size goal
  | .look _ false body, goal => body.budget size goal
  | .look _ true body, goal => .choice (body.budget size .none) goal
  | .backref _, goal => goal
  | .once body, goal =>
      { retries := (body.budget size .none).retries + goal.retries
        choices := max (body.budget size .none).choices goal.choices }

/-! ## Ends within a budget -/

/-- A search that started with a number of retries has ended and has used at most `cost`
of them. -/
def Outcome.EndsWithin (outcome : Outcome) (cost left : Nat) : Prop :=
  match outcome with
  | .matched _ rest => left ≤ rest + cost
  | .failed rest => left ≤ rest + cost
  | .aborted _ => False

/-- A goal that can afford its budget is reached or missed within it. -/
def Goal.Fits (goal : Goal) (budget : Budget) : Prop :=
  ∀ spot left, spot.pending + budget.choices ≤ searchLimit → budget.retries ≤ left →
    (goal spot left).EndsWithin budget.retries left

namespace Outcome

variable {outcome : Outcome} {cost other left : Nat}

@[simp] theorem endsWithin_matched {spot : Spot} {rest : Nat} :
    (matched spot rest).EndsWithin cost left ↔ left ≤ rest + cost := Iff.rfl

@[simp] theorem endsWithin_failed {rest : Nat} :
    (failed rest).EndsWithin cost left ↔ left ≤ rest + cost := Iff.rfl

@[simp] theorem not_endsWithin_aborted {reason : Abort} :
    ¬(aborted reason).EndsWithin cost left := id

theorem EndsWithin.mono
    (ends : outcome.EndsWithin cost left)
    (more : cost ≤ other) :
    outcome.EndsWithin other left := by
  cases outcome with
  | matched spot rest => exact Nat.le_trans ends (by omega)
  | failed rest => exact Nat.le_trans ends (by omega)
  | aborted reason => exact ends

/-- What a search uses comes on top of what was used before it. -/
theorem EndsWithin.after
    {rest : Nat}
    (ends : outcome.EndsWithin other rest)
    (used : left ≤ rest + cost) :
    outcome.EndsWithin (cost + other) left := by
  cases outcome with
  | matched spot final =>
      exact Nat.le_trans used (by have : rest ≤ final + other := ends; omega)
  | failed final =>
      exact Nat.le_trans used (by have : rest ≤ final + other := ends; omega)
  | aborted reason => exact ends

theorem endsWithin_retry
    {resume : Nat → Outcome}
    (enough : cost + 1 ≤ left)
    (resumed : ∀ rest, cost ≤ rest → (resume rest).EndsWithin cost rest) :
    (retry left resume).EndsWithin (cost + 1) left := by
  obtain ⟨rest, rfl⟩ : ∃ rest, left = rest + 1 := ⟨left - 1, by omega⟩
  rw [Nat.add_comm cost 1]
  exact (resumed rest (by omega)).after (Nat.le_refl _)

theorem endsWithin_openChoices
    {spot : Spot}
    {count : Nat}
    {proceed : Spot → Outcome}
    (room : spot.pending + count ≤ searchLimit)
    (ends : (proceed { spot with pending := spot.pending + count }).EndsWithin
      cost left) : (openChoices spot count proceed).EndsWithin cost left := by
  rwa [openChoices, if_neg (Nat.not_lt.mpr room)]

/-- Trying again after a failure takes one retry more than both searches. -/
theorem EndsWithin.orRetry
    (outcome : Outcome)
    (resume : Nat → Outcome) :
    outcome.EndsWithin cost left → cost + other + 1 ≤ left →
    (∀ rest, other ≤ rest → (resume rest).EndsWithin other rest) →
    EndsWithin
      (match outcome with
      | .failed rest => retry rest resume
      | outcome => outcome)
      (cost + other + 1) left := by
  intro ends enough resumed
  cases outcome with
  | matched spot rest => exact EndsWithin.mono ends (by omega)
  | failed rest =>
      rw [endsWithin_failed] at ends
      exact (endsWithin_retry (by omega) resumed).after ends
  | aborted reason => exact ends

/-- A search that goes on only after a failure takes one retry more than both searches.
-/
theorem EndsWithin.afterFailure
    {resume : Nat → Outcome}
    (ends : outcome.EndsWithin cost left)
    (enough : cost + other + 1 ≤ left)
    (resumed : ∀ rest, other ≤ rest → (resume rest).EndsWithin other rest) :
    (outcome.afterFailure resume).EndsWithin (cost + other + 1) left := by
  cases outcome with
  | matched spot rest =>
      rw [endsWithin_matched] at ends
      change left ≤ rest + (cost + other + 1)
      omega
  | failed rest =>
      rw [endsWithin_failed] at ends
      exact (endsWithin_retry (by omega) resumed).after ends
  | aborted reason => exact ends

end Outcome

/-! ## Goals within a budget -/

namespace Goal

variable {line : Line} {goal first second : Goal} {budget other : Budget}

theorem done_fits : Goal.done.Fits .none := fun _ _ _ _ => Nat.le_refl _

theorem Fits.mono
    (fits : goal.Fits budget)
    (retries : budget.retries ≤ other.retries)
    (choices : budget.choices ≤ other.choices) :
    goal.Fits other := fun spot left room enough =>
  (fits spot left (by omega) (by omega)).mono retries

theorem choose_fits
    (firstFits : first.Fits budget)
    (secondFits : second.Fits other) :
    (choose first second).Fits (.choice budget other) := by
  intro spot left room enough
  simp only [Budget.choice] at room enough
  have tried := firstFits { spot with pending := spot.pending + 1 } left
    (by dsimp only; omega) (by omega)
  refine Outcome.endsWithin_openChoices (by omega) ?_
  exact Outcome.EndsWithin.orRetry _ _ tried enough fun rest more =>
    secondFits spot rest (by omega) more

/-- A choice costs the same in either order. -/
theorem choose_greedy_fits
    (greedy : Bool)
    (firstFits : first.Fits budget)
    (secondFits : second.Fits other) :
    (if greedy then choose first second else choose second first).Fits
      (.choice budget other) := by
  cases greedy with
  | true => exact choose_fits firstFits secondFits
  | false =>
      have fits : (choose second first).Fits (.choice other budget) :=
        choose_fits secondFits firstFits
      rwa [show Budget.choice other budget = Budget.choice budget other by
        simp [Budget.choice, Nat.add_comm, Nat.max_comm]] at fits

section Repetitions

variable {body : Goal → Goal} {cost : Budget → Budget}

theorem copies_fits
    (fitting : ∀ {goal : Goal} {budget}, goal.Fits budget →
      (body goal).Fits (cost budget))
    (fits : goal.Fits budget)
    (count : Nat) :
    (copies body count goal).Fits (.copies cost count budget) := by
  induction count with
  | zero => exact fits
  | succ count inductionHypothesis => exact fitting inductionHypothesis

theorem furtherUpTo_fits
    (fitting : ∀ {goal : Goal} {budget}, goal.Fits budget →
      (body goal).Fits (cost budget))
    (fits : goal.Fits budget)
    (greedy : Bool)
    (count : Nat) :
    (furtherUpTo body greedy goal count).Fits (.further cost budget count) := by
  induction count with
  | zero => exact fits
  | succ count inductionHypothesis =>
      exact choose_greedy_fits greedy (fitting inductionHypothesis) fits

theorem beyond_fits (position : Nat) (fits : goal.Fits budget) :
    (beyond position goal).Fits budget := by
  intro spot left room enough
  unfold beyond
  split
  · exact Nat.le_add_right left _
  · exact fits spot left room enough

theorem further_fits
    (fitting : ∀ {goal : Goal} {budget}, goal.Fits budget →
      (body goal).Fits (cost budget))
    (fits : goal.Fits budget)
    (greedy : Bool)
    (fuel : Nat) :
    (further body greedy goal fuel).Fits (.further cost budget fuel) := by
  induction fuel with
  | zero => exact fits
  | succ fuel inductionHypothesis =>
      intro spot left room enough
      rw [further_succ]
      exact choose_greedy_fits greedy
        (fitting (beyond_fits spot.position inductionHypothesis))
        fits spot left room enough

end Repetitions

/-! ## Runs of characters -/

variable {chars : CharSet}

theorem set_fits (chars : CharSet) (fits : goal.Fits budget) :
    ((Plan.set chars).run line goal).Fits budget := by
  intro spot left room enough
  simp only [Plan.run]
  split
  · exact fits _ left room enough
  · exact Nat.le_add_right left _

theorem shorten_endsWithin
    (fits : goal.Fits budget)
    {spot : Spot}
    {length left : Nat}
    (room : spot.pending + length + budget.choices ≤ searchLimit)
    (enough : length * (budget.retries + 1) + budget.retries ≤ left) :
    (shorten goal spot length left).EndsWithin
      (length * (budget.retries + 1) + budget.retries) left := by
  induction length generalizing left with
  | zero =>
      rw [shorten, Nat.zero_mul, Nat.zero_add]
      exact fits spot left (by omega) (by omega)
  | succ length inductionHypothesis =>
      rw [Nat.succ_mul] at enough ⊢
      have longest : (goal
          { spot with
            position := spot.position + (length + 1)
            pending :=
              spot.pending + (length + 1) } left).EndsWithin budget.retries left :=
        fits _ left (by dsimp only; omega) (by omega)
      have shorter : ∀ rest, length * (budget.retries + 1) + budget.retries ≤ rest →
          (shorten goal spot length rest).EndsWithin
            (length * (budget.retries + 1) + budget.retries) rest := fun rest more =>
        inductionHypothesis (by omega) more
      rw [shorten]
      exact (Outcome.EndsWithin.orRetry _ _ longest (by omega) shorter).mono (by omega)

theorem takeRun_fits
    (limit : Option Nat)
    (fits : goal.Fits budget) :
    (takeRun line chars limit goal).Fits (.run (limit.getD (line.size + 1)) budget) := by
  intro spot left room enough
  obtain ⟨run, extended, notMore, -⟩ :=
    extendRun_spec line chars (limit.getD (line.size + 1)) spot.position 0
  rw [Nat.zero_add] at extended
  simp only [Budget.run, Nat.succ_mul] at room enough ⊢
  have costs : run * (budget.retries + 1) ≤
      limit.getD (line.size + 1) * (budget.retries + 1) := Nat.mul_le_mul_right _ notMore
  simp only [takeRun, runLength, extended]
  split
  · refine Outcome.endsWithin_openChoices (by omega) ?_
    exact (shorten_endsWithin fits (by omega) (by omega)).mono (by omega)
  · refine Outcome.endsWithin_openChoices (by omega) ?_
    refine (Outcome.endsWithin_retry (by omega) fun rest more =>
      shorten_endsWithin fits (by omega) more).mono (by omega)

theorem lengthen_fits
    (fits : goal.Fits budget)
    (fuel : Nat) :
    (lengthen line chars goal fuel).Fits (.run fuel budget) := by
  induction fuel with
  | zero =>
      exact fits.mono (by simp [Budget.run]) (by simp [Budget.run])
  | succ fuel inductionHypothesis =>
      intro spot left room enough
      simp only [Budget.run, Nat.succ_mul] at room enough inductionHypothesis ⊢
      have shortest := fits { spot with pending := spot.pending + 1 } left
        (by dsimp only; omega) (by omega)
      have longer : ∀ rest, fuel * (budget.retries + 1) + (budget.retries + 1) ≤ rest →
          Outcome.EndsWithin
            (if line.hasAt chars spot.position then
              lengthen line chars goal fuel { spot
                with position := spot.position + 1 } rest
            else .failed rest)
            (fuel * (budget.retries + 1) + (budget.retries + 1)) rest := by
        intro rest more
        split
        · exact inductionHypothesis _ rest (by dsimp only; omega) (by omega)
        · exact Nat.le_add_right rest _
      rw [lengthen]
      refine Outcome.endsWithin_openChoices (by omega) ?_
      exact (Outcome.EndsWithin.orRetry _ _ shortest (by omega) longer).mono (by omega)

end Goal

/-! ## Plans within a budget -/

namespace Plan

variable {line : Line} {goal : Goal} {budget : Budget}

/-- The budget of a plan does not depend on what its settled parts are. -/
theorem budget_map
    (change : α → β)
    (plan : Plan α)
    (size : Nat) :
    (plan.map change).budget size = plan.budget size := by
  induction plan with
  | cat first second firstHypothesis secondHypothesis
  | alt first second firstHypothesis secondHypothesis =>
      funext goal
      simp only [map, Plan.budget, firstHypothesis, secondHypothesis]
  | iterate body low high greedy inductionHypothesis =>
      funext goal
      cases body <;> simp_all only [map, Plan.budget]
  | group index body inductionHypothesis | once body inductionHypothesis =>
      funext goal
      simp only [map, Plan.budget, inductionHypothesis]
  | look back negated body inductionHypothesis =>
      funext goal
      cases negated <;> simp only [map, Plan.budget, inductionHypothesis]
  | _ => rfl

/-- The characters that a repetition needs cost nothing, whatever stands behind them. -/
theorem copies_set_fits
    (chars : CharSet)
    (fits : goal.Fits budget)
    (count : Nat) :
    (copies ((set chars).run line) count goal).Fits budget := by
  induction count with
  | zero => exact fits
  | succ count inductionHypothesis => exact Goal.set_fits chars inductionHypothesis

theorem iterate_fits
    {body : Plan Prospect}
    {low : Nat}
    {high : Option Nat}
    {greedy : Bool}
    (fitting : ∀ {goal : Goal} {budget : Budget}, goal.Fits budget →
      (body.run line goal).Fits (body.budget line.size budget))
    (fits : goal.Fits budget) :
    ((iterate body low high greedy).run line goal).Fits
      ((iterate body low high greedy).budget line.size budget) := by
  by_cases isSet : ∃ chars, body = .set chars
  · obtain ⟨chars, rfl⟩ := isSet
    refine copies_set_fits chars ?_ _
    cases greedy with
    | true => exact Goal.takeRun_fits _ fits
    | false => exact Goal.lengthen_fits fits _
  · have unfolded : (iterate body low high greedy).run line goal =
        copies (body.run line) (min low (high.getD low))
          (high.elim (further (body.run line) greedy goal (line.size + 1))
            fun bound => furtherUpTo (body.run line) greedy goal (bound - low)) := by
      cases body with
      | set chars => exact absurd ⟨chars, rfl⟩ isSet
      | _ => cases high <;> rfl
    have budgeted : (iterate body low high greedy).budget line.size budget =
        .copies (body.budget line.size) (min low (high.getD low))
          (.further (body.budget line.size) budget
            ((high.map (· - low)).getD (line.size + 1))) := by
      cases body with
      | set chars => exact absurd ⟨chars, rfl⟩ isSet
      | _ => rfl
    rw [unfolded, budgeted]
    refine Goal.copies_fits fitting ?_ _
    cases high with
    | some bound => exact Goal.furtherUpTo_fits fitting fits greedy (bound - low)
    | none => exact Goal.further_fits fitting fits greedy (line.size + 1)

/-- Carrying out a plan and reaching a goal behind it takes no more than the budget of
the plan. -/
theorem run_fits
    (plan : Plan Prospect)
    (fits : goal.Fits budget) :
    (plan.run line goal).Fits (plan.budget line.size budget) := by
  induction plan generalizing goal budget with
  | pass => exact fits
  | set chars => exact Goal.set_fits chars fits
  | assertion condition =>
      intro spot left room enough
      simp only [run]
      split
      · exact fits spot left room enough
      · exact Nat.le_add_right left _
  | settled part width =>
      intro spot left room enough
      simp only [run]
      split
      · exact fits _ left room enough
      · exact Nat.le_add_right left _
  | preferred part =>
      intro spot left room enough
      simp only [run]
      split
      · exact fits _ left room enough
      · exact Nat.le_add_right left _
  | cat first second firstHypothesis secondHypothesis =>
      exact firstHypothesis (secondHypothesis fits)
  | alt first second firstHypothesis secondHypothesis =>
      exact Goal.choose_fits (firstHypothesis fits) (secondHypothesis fits)
  | iterate body low high greedy inductionHypothesis =>
      exact iterate_fits inductionHypothesis fits
  | group index body inductionHypothesis =>
      have records : Goal.Fits
          (fun inner => goal
            { inner with captures := inner.captures.set (.stop index) inner.position })
          budget := fun spot left room enough => fits _ left room enough
      exact fun spot left room enough => inductionHypothesis records _ left room enough
  | look back negated body inductionHypothesis =>
      intro spot left room enough
      cases negated with
      | false =>
          have stays : Goal.Fits
              (fun inner => goal { inner with position := spot.position })
              budget := fun inner left room enough => fits _ left room enough
          simp only [run]
          split
          · exact inductionHypothesis stays _ left room enough
          · exact Nat.le_add_right left _
      | true =>
          simp only [Plan.budget, Budget.choice] at room enough ⊢
          have unfolded : (look back true body).run line goal spot left =
              openChoices spot 1 fun opened =>
                Outcome.afterFailure
                  (if back ≤ spot.position then
                    body.run line Goal.done
                      { opened with position := spot.position - back } left
                  else .failed left)
                  (goal spot) := rfl
          have looked : Outcome.EndsWithin
              (if back ≤ spot.position then
                body.run line Goal.done
                  { spot with
                    position := spot.position - back
                    pending := spot.pending + 1 } left
              else .failed left)
              (body.budget line.size .none).retries left := by
            split
            · exact inductionHypothesis Goal.done_fits _ left
                (by dsimp only; omega) (by omega)
            · exact Nat.le_add_right left _
          rw [unfolded]
          refine Outcome.endsWithin_openChoices (by omega) ?_
          exact looked.afterFailure enough fun rest more => fits spot rest (by omega) more
  | backref index =>
      intro spot left room enough
      simp only [run]
      split
      · split
        · exact fits _ left room enough
        · exact Nat.le_add_right left _
      · exact Nat.le_add_right left _
  | once body inductionHypothesis =>
      intro spot left room enough
      simp only [Plan.budget] at room enough ⊢
      have first := inductionHypothesis Goal.done_fits spot left (by omega) (by omega)
      simp only [run]
      cases reached : body.run line Goal.done spot left with
      | matched inner rest =>
          rw [reached, Outcome.endsWithin_matched] at first
          exact (fits { inner with pending := spot.pending } rest (by dsimp only; omega)
            (by omega)).after first
      | failed rest =>
          rw [reached, Outcome.endsWithin_failed] at first
          exact Nat.le_trans first (by omega)
      | aborted reason =>
          rw [reached] at first
          exact first

/-- Each start of a search takes the budget of the plan and one retry. -/
theorem searchFrom_endsWithin
    {plan : Plan Prospect}
    {starts position left : Nat}
    (room : 1 + (plan.budget line.size .none).choices ≤ searchLimit)
    (enough : starts * ((plan.budget line.size .none).retries + 1) ≤ left) :
    (plan.searchFrom line starts position left).EndsWithin
      (starts * ((plan.budget line.size .none).retries + 1)) left := by
  induction starts generalizing position left with
  | zero => exact Nat.le_add_right left _
  | succ starts inductionHypothesis =>
      rw [Nat.succ_mul] at enough ⊢
      have here : (plan.run line Goal.done ⟨position, [], 1⟩ left).EndsWithin
          (plan.budget line.size .none).retries left :=
        plan.run_fits Goal.done_fits _ left room (by omega)
      have later : ∀ rest, starts * ((plan.budget line.size .none).retries + 1) ≤ rest →
          (plan.searchFrom line starts (position + 1) rest).EndsWithin
            (starts * ((plan.budget line.size .none).retries + 1)) rest :=
              fun rest more =>
        inductionHypothesis more
      rw [searchFrom]
      exact (Outcome.EndsWithin.orRetry _ _ here (by omega) later).mono (by omega)

end Plan

/-- Whether an engine can afford all that it may need on a line of a given length. -/
def Engine.affords (size : Nat) : Engine → Bool
  | .linear _ => true
  | .settled _ => true
  | .backtracking plan =>
      let budget := plan.budget size .none
      decide ((size + 1) * (budget.retries + 1) ≤ searchLimit) &&
        decide (1 + budget.choices ≤ searchLimit)

/-- An engine does not give up on a line if it can afford what it may need there. -/
theorem Engine.not_givesUpOn_of_affords
    {engine : Engine}
    {line : Line}
    (affords : engine.affords line.size = true) :
    ¬engine.GivesUpOn line := by
  rintro ⟨plan, reason, rfl, gaveUp⟩
  simp only [Engine.affords, Bool.and_eq_true, decide_eq_true_eq] at affords
  rw [← Plan.budget_map (Regex.prospect line)] at affords
  have ends : (plan.search line).EndsWithin _ searchLimit :=
    Plan.searchFrom_endsWithin affords.2 affords.1
  rw [gaveUp] at ends
  exact ends

end Pattern
end ScriptAudit
