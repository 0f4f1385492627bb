import ScriptAudit.Pattern.Backtrack
import ScriptAudit.Proofs.Pattern.Origins

/-!
# What a backtracking search decides

A search that is not given up answers a question: a match says yes and a failure says
no. A goal decides a condition on positions when it answers, from every position of the
line, whether the condition holds there. Plans turn goals into goals, so a plan realizes
a relation when it turns a goal that decides a condition into one that decides whether
the relation leads to a position with the condition.

Retries and open choices are counted, but they only ever make a search give up.
-/

namespace ScriptAudit
namespace Pattern

/-! ## Answers -/

/-- A search that was not given up has answered a question. -/
def Outcome.Answers (outcome : Outcome) (question : Prop) : Prop :=
  match outcome with
  | .matched .. => question
  | .failed _ => ¬question
  | .aborted _ => True

namespace Outcome

variable {outcome : Outcome} {question other : Prop} {left : Nat}

@[simp] theorem answers_matched {spot : Spot} :
    (matched spot left).Answers question ↔ question := Iff.rfl

@[simp] theorem answers_failed : (failed left).Answers question ↔ ¬question := Iff.rfl

@[simp] theorem answers_aborted {reason : Abort} :
    (aborted reason).Answers question := trivial

theorem Answers.congr
    (answers : outcome.Answers question)
    (same : question ↔ other) :
    outcome.Answers other := by
  rwa [← propext same]

theorem answers_retry
    {resume : Nat → Outcome}
    (answers : ∀ left, (resume left).Answers question) :
    (retry left resume).Answers question := by
  cases left with
  | zero => trivial
  | succ left => exact answers left

theorem answers_openChoices
    {spot : Spot}
    {count : Nat}
    {proceed : Spot → Outcome}
    (answers : (proceed { spot with pending := spot.pending + count }).Answers question) :
    (openChoices spot count proceed).Answers question := by
  unfold openChoices
  split
  · trivial
  · exact answers

/-- A second search answers when the first one has failed. -/
theorem Answers.orRetry
    (outcome : Outcome)
    (resume : Nat → Outcome) :
    outcome.Answers question → (∀ left, (resume left).Answers other) →
    Answers
      (match outcome with
      | .failed left => retry left resume
      | outcome => outcome)
      (question ∨ other) := by
  intro answers resumed
  cases outcome with
  | matched spot left => exact .inl answers
  | failed left => exact answers_retry fun left => (resumed left).congr (by tauto)
  | aborted reason => trivial

/-- Go on only after a search that has failed. -/
def afterFailure (outcome : Outcome) (resume : Nat → Outcome) : Outcome :=
  match outcome with
  | .matched _ left => .failed left
  | .failed left => retry left resume
  | .aborted reason => .aborted reason

theorem Answers.afterFailure
    {resume : Nat → Outcome}
    (answers : outcome.Answers question)
    (resumed : ∀ left, (resume left).Answers other) :
    (outcome.afterFailure resume).Answers (¬question ∧ other) := by
  cases outcome with
  | matched spot left => exact fun both => both.1 answers
  | failed left => exact answers_retry fun left => (resumed left).congr (by tauto)
  | aborted reason => trivial

end Outcome

/-! ## Goals -/

/-- A goal answers from every position of a line whether a condition holds there. -/
def Goal.Decides (line : Line) (goal : Goal) (condition : Nat → Prop) : Prop :=
  ∀ spot left, spot.position ≤ line.size →
    (goal spot left).Answers (condition spot.position)

/-- A change of goals that puts a relation in front of what a goal decides. -/
def Precedes (line : Line) (relation : Nat → Nat → Prop) (body : Goal → Goal) : Prop :=
  ∀ ⦃goal condition⦄, goal.Decides line condition →
    (body goal).Decides line fun start => ∃ stop, relation start stop ∧ condition stop

namespace Goal

variable {line : Line} {goal first second : Goal} {condition other : Nat → Prop}
variable {relation : Nat → Nat → Prop} {body : Goal → Goal}

theorem Decides.congr
    (decides : goal.Decides line condition)
    (same : ∀ position ≤ line.size, condition position ↔ other position) :
    goal.Decides line other := fun spot left within =>
  (decides spot left within).congr (same spot.position within)

theorem done_decides : Goal.done.Decides line fun _ => True := fun _ _ _ => trivial

theorem choose_decides
    (firstDecides : first.Decides line condition)
    (secondDecides : second.Decides line other) :
    (choose first second).Decides line fun position => condition position ∨
    other position := by
  intro spot left within
  apply Outcome.answers_openChoices
  exact Outcome.Answers.orRetry _ _ (firstDecides _ left within) fun left =>
    secondDecides spot left within

/-- A choice in either order. -/
theorem choose_greedy_decides
    (greedy : Bool)
    (firstDecides : first.Decides line condition)
    (secondDecides : second.Decides line other) :
    (if greedy then choose first second else choose second first).Decides line
      fun position => other position ∨ condition position := by
  cases greedy with
  | true => exact (choose_decides firstDecides secondDecides).congr fun _ _ => or_comm
  | false => exact choose_decides secondDecides firstDecides

/-! ## Repetitions -/

theorem copies_decides
    (precedes : Precedes line relation body)
    (decides : goal.Decides line condition)
    (count : Nat) :
    (copies body count goal).Decides line fun start =>
      ∃ stop, Chain relation count start stop ∧ condition stop := by
  induction count with
  | zero => exact decides.congr fun position _ => by simp
  | succ count inductionHypothesis =>
      refine (precedes inductionHypothesis).congr fun start _ => ?_
      simp only [chain_succ]
      constructor
      · rintro ⟨middle, here, stop, later, holds⟩
        exact ⟨stop, ⟨middle, here, later⟩, holds⟩
      · rintro ⟨stop, ⟨middle, here, later⟩, holds⟩
        exact ⟨middle, here, stop, later, holds⟩

/-- At most one copy more: none, or one and then at most as many as before. -/
theorem exists_taken_succ_iff
    {count start : Nat} :
    (condition start ∨ ∃ middle, relation start middle ∧
        ∃ stop, (∃ taken ≤ count, Chain relation taken middle stop) ∧ condition stop) ↔
      ∃ stop, (∃ taken ≤ count + 1, Chain relation taken start stop) ∧
        condition stop := by
  constructor
  · rintro (holds | ⟨middle, here, stop, ⟨taken, notMore, later⟩, holds⟩)
    · exact ⟨start, ⟨0, Nat.zero_le _, rfl⟩, holds⟩
    · exact ⟨stop, ⟨taken + 1, by omega, middle, here, later⟩, holds⟩
  · rintro ⟨stop, ⟨taken, notMore, chain⟩, holds⟩
    cases taken with
    | zero => exact .inl (chain ▸ holds)
    | succ taken =>
        obtain ⟨middle, here, later⟩ := chain
        exact .inr ⟨middle, here, stop, ⟨taken, by omega, later⟩, holds⟩

theorem furtherUpTo_decides
    (precedes : Precedes line relation body)
    (decides : goal.Decides line condition)
    (greedy : Bool)
    (count : Nat) :
    (furtherUpTo body greedy goal count).Decides line fun start =>
      ∃ stop, (∃ taken ≤ count, Chain relation taken start stop) ∧ condition stop := by
  induction count with
  | zero => exact decides.congr fun position _ => by simp
  | succ count inductionHypothesis =>
      exact (choose_greedy_decides greedy (precedes inductionHypothesis) decides).congr
        fun _ _ => exists_taken_succ_iff

/-- A goal that is only tried beyond a position. -/
def beyond (position : Nat) (goal : Goal) : Goal := fun next left =>
  if next.position ≤ position then .failed left else goal next left

theorem further_succ
    (body : Goal → Goal)
    (greedy : Bool)
    (goal : Goal)
    (fuel : Nat)
    (spot : Spot) :
    further body greedy goal (fuel + 1) spot =
      (if greedy then
        choose (body (beyond spot.position (further body greedy goal fuel))) goal
      else choose goal (body (beyond spot.position (further body greedy goal fuel))))
        spot := by
  cases greedy <;> rfl

/-- A copy that matches nothing is not followed by another one, which loses no match. -/
theorem further_answers
    (forward : ∀ {start stop}, relation start stop → start ≤ stop)
    (precedes : Precedes line relation body)
    (decides : goal.Decides line condition)
    (greedy : Bool)
    {fuel : Nat}
    {spot : Spot}
    (enough : line.size - spot.position < fuel)
    (within : spot.position ≤ line.size)
    (left : Nat) :
    (further body greedy goal fuel spot left).Answers
      (∃ stop, (∃ taken, Chain relation taken spot.position stop) ∧ condition stop) := by
  induction fuel generalizing spot left with
  | zero => omega
  | succ fuel inductionHypothesis =>
      have next : (beyond spot.position (further body greedy goal fuel)).Decides line
          fun position => spot.position < position ∧
            ∃ stop, (∃ taken, Chain relation taken position stop) ∧ condition stop := by
        intro reached left within
        by_cases idle : reached.position ≤ spot.position
        · simp [beyond, idle, Nat.not_lt.mpr idle]
        · simpa [beyond, idle, Nat.lt_of_not_le idle] using
            inductionHypothesis (by omega) within left
      rw [further_succ]
      refine (choose_greedy_decides greedy
        (precedes next) decides spot left within).congr ?_
      constructor
      · rintro (holds | ⟨middle, here, moved, stop, ⟨taken, later⟩, holds⟩)
        · exact ⟨_, ⟨0, rfl⟩, holds⟩
        · exact ⟨stop, ⟨taken + 1, middle, here, later⟩, holds⟩
      · rintro ⟨stop, ⟨taken, chain⟩, holds⟩
        rcases chain.eq_or_exists_first forward
          with same | ⟨middle, fewer, moved, here, later⟩
        · exact .inl (same ▸ holds)
        · exact .inr ⟨middle, here, moved, stop, ⟨fewer, later⟩, holds⟩

/-! ## Runs of characters -/

variable {chars : CharSet}

/-- A character of a set stands at the first of two neighbouring positions. -/
def HasChar (line : Line) (chars : CharSet) (start stop : Nat) : Prop :=
  line.hasAt chars start = true ∧ stop = start + 1

theorem chain_hasChar_succ {count start : Nat} :
    Chain (HasChar line chars) (count + 1) start (start + (count + 1)) ↔
      line.hasAt chars start = true ∧
        Chain (HasChar line chars) count (start + 1) (start + 1 + count) := by
  rw [Nat.add_right_comm start 1 count, chain_succ]
  constructor
  · rintro ⟨_, ⟨here, rfl⟩, later⟩
    exact ⟨here, later⟩
  · rintro ⟨here, later⟩
    exact ⟨start + 1, ⟨here, rfl⟩, later⟩

theorem HasChar.lt_size
    {start stop : Nat}
    (here : HasChar line chars start stop) :
    stop ≤ line.size := by
  obtain ⟨here, rfl⟩ := here
  obtain ⟨char, found, -⟩ := (Option.any_eq_true _ _).mp here
  exact (Array.getElem?_eq_some_iff.mp found).1

/-- A chain of characters has the length of its copies. -/
theorem chain_hasChar_iff
    {count start stop : Nat} :
    Chain (HasChar line chars) count start stop ↔
      stop = start + count ∧ Chain (HasChar line chars) count start (start + count) := by
  constructor
  · intro chain
    have lengthOf : stop = start + 1 * count := chain.eq_add_mul fun here => here.2
    rw [Nat.one_mul] at lengthOf
    exact ⟨lengthOf, lengthOf ▸ chain⟩
  · rintro ⟨rfl, chain⟩
    exact chain

theorem set_precedes (chars : CharSet) :
    Precedes line (HasChar line chars) ((Plan.set chars).run line) := by
  intro goal condition decides spot left within
  by_cases here : line.hasAt chars spot.position = true
  · have inside : spot.position + 1 ≤ line.size := HasChar.lt_size ⟨here, rfl⟩
    have answers := decides { spot with position := spot.position + 1 } left inside
    simpa [Plan.run, HasChar, here] using answers
  · simp [Plan.run, HasChar, here]

/-- A search for one character of a set is never given up, so it leads along one
relation only. -/
theorem hasChar_iff_of_precedes
    (precedes : Precedes line relation ((Plan.set chars).run line))
    {start stop : Nat}
    (within : start ≤ line.size) :
    relation start stop ↔ HasChar line chars start stop := by
  let arrived : Goal := fun spot left =>
    if spot.position = stop then .matched spot left else .failed left
  have decides : arrived.Decides line (· = stop) := by
    intro spot left _
    by_cases there : spot.position = stop <;> simp [arrived, there]
  have one := precedes decides ⟨start, [], 0⟩ 0 within
  have two := set_precedes chars decides ⟨start, [], 0⟩ 0 within
  simp only [exists_eq_right] at one two
  simp only [Plan.run, arrived] at one two
  split at one <;> [split at one; skip] <;> simp_all

/-- A run that is extended is as long as it can be. -/
theorem extendRun_spec
    (line : Line)
    (chars : CharSet)
    (limit position length : Nat) :
    ∃ run, extendRun line chars limit position length = length + run ∧ run ≤ limit ∧
      ∀ count ≤ limit,
        Chain (HasChar line chars) count position (position + count) ↔ count ≤ run := by
  induction limit generalizing position length with
  | zero => exact ⟨0, rfl, Nat.le_refl _, by simp⟩
  | succ limit inductionHypothesis =>
      by_cases here : line.hasAt chars position = true
      · obtain ⟨run, extended, notMore, longest⟩ :=
          inductionHypothesis (position + 1) (length + 1)
        refine ⟨run + 1, by rw [extendRun, if_pos here, extended]; omega, by omega, ?_⟩
        intro count within
        cases count with
        | zero => simp
        | succ count =>
            rw [chain_hasChar_succ, longest count (by omega), Nat.succ_le_succ_iff]
            exact and_iff_right here
      · refine ⟨0, by rw [extendRun, if_neg here]; rfl, Nat.zero_le _,
          fun count within => ?_⟩
        cases count with
        | zero => simp
        | succ count => simp [chain_hasChar_succ, here]

theorem shorten_answers
    (decides : goal.Decides line condition)
    {spot : Spot}
    {length : Nat}
    (within : spot.position + length ≤ line.size)
    (left : Nat) :
    (shorten goal spot length left).Answers
      (∃ count ≤ length, condition (spot.position + count)) := by
  induction length generalizing left with
  | zero => exact (decides spot left within).congr (by simp)
  | succ length inductionHypothesis =>
      rw [shorten]
      refine (Outcome.Answers.orRetry _ _ (decides _ left within)
        fun left => inductionHypothesis (by omega) left).congr ?_
      constructor
      · rintro (longest | ⟨count, shorter, holds⟩)
        · exact ⟨length + 1, Nat.le_refl _, longest⟩
        · exact ⟨count, by omega, holds⟩
      · rintro ⟨count, notLonger, holds⟩
        rcases Nat.eq_or_lt_of_le notLonger with rfl | shorter
        · exact .inl holds
        · exact .inr ⟨count, by omega, holds⟩

/-- The longest run of characters from a position of the line, and all shorter ones. -/
theorem runLength_spec
    (chars : CharSet)
    {position : Nat}
    (within : position ≤ line.size)
    (limit : Option Nat) :
    let length := runLength line chars position (limit.getD (line.size + 1))
    position + length ≤ line.size ∧
      ∀ count, count ≤ length ↔
        (∀ bound ∈ limit, count ≤ bound) ∧
          Chain (HasChar line chars) count position (position + count) := by
  obtain ⟨run, extended, notMore, longest⟩ :=
    extendRun_spec line chars (limit.getD (line.size + 1)) position 0
  have inside : ∀ {count}, Chain (HasChar line chars) count position (position + count) →
      position + count ≤ line.size := fun chain =>
    chain.le_bound (fun here _ => here.lt_size) within
  simp only [runLength, extended, Nat.zero_add]
  refine ⟨inside ((longest run notMore).mpr (Nat.le_refl _)), fun count => ⟨?_, ?_⟩⟩
  · intro shorter
    refine ⟨?_, (longest count (by omega)).mpr shorter⟩
    rintro bound rfl
    exact Nat.le_trans shorter notMore
  · rintro ⟨bounded, chain⟩
    refine (longest count ?_).mp chain
    cases limit with
    | some bound => exact bounded bound rfl
    | none =>
        have := inside chain
        simp only [Option.getD_none]
        omega

theorem takeRun_decides
    (decides : goal.Decides line condition)
    (limit : Option Nat) :
    (takeRun line chars limit goal).Decides line fun start =>
      ∃ stop, (∃ taken, (∀ bound ∈ limit, taken ≤ bound) ∧
        Chain (HasChar line chars) taken start stop) ∧ condition stop := by
  intro spot left within
  obtain ⟨inside, longest⟩ := runLength_spec chars within limit
  have answers : ∀ left, (shorten goal spot
      (runLength line chars spot.position (limit.getD (line.size + 1))) left).Answers
        (∃ stop, (∃ taken, (∀ bound ∈ limit, taken ≤ bound) ∧
          Chain (HasChar line chars) taken spot.position stop) ∧ condition stop) := by
    intro left
    refine (shorten_answers decides inside left).congr ?_
    simp only [longest]
    constructor
    · rintro ⟨count, taken, holds⟩
      exact ⟨_, ⟨count, taken⟩, holds⟩
    · rintro ⟨stop, ⟨count, bounded, chain⟩, holds⟩
      obtain ⟨rfl, chain⟩ := chain_hasChar_iff.mp chain
      exact ⟨count, ⟨bounded, chain⟩, holds⟩
  simp only [takeRun]
  split
  · exact Outcome.answers_openChoices (answers left)
  · exact Outcome.answers_openChoices (Outcome.answers_retry answers)

theorem lengthen_decides
    (decides : goal.Decides line condition)
    (fuel : Nat) :
    (lengthen line chars goal fuel).Decides line fun start =>
      ∃ stop, (∃ taken ≤ fuel, Chain (HasChar line chars) taken start stop) ∧
        condition stop := by
  induction fuel with
  | zero => exact decides.congr fun position _ => by simp
  | succ fuel inductionHypothesis =>
      intro spot left within
      rw [lengthen]
      apply Outcome.answers_openChoices
      have shortest := decides { spot with pending := spot.pending + 1 } left within
      refine (Outcome.Answers.orRetry _ _ shortest fun left => ?_).congr
        exists_taken_succ_iff
      have answers := set_precedes chars inductionHypothesis spot left within
      rwa [Plan.run] at answers

/-- A run of characters in either order of preference. -/
theorem run_decides
    (greedy : Bool)
    (decides : goal.Decides line condition)
    (limit : Option Nat) :
    (if greedy then takeRun line chars limit goal
      else lengthen line chars goal (limit.getD (line.size + 1))).Decides line
      fun start => ∃ stop, (∃ taken, (∀ bound ∈ limit, taken ≤ bound) ∧
        Chain (HasChar line chars) taken start stop) ∧ condition stop := by
  cases greedy with
  | true => exact takeRun_decides decides limit
  | false =>
      refine (lengthen_decides decides (limit.getD (line.size + 1))).congr
        fun start within => ?_
      have few : ∀ {taken stop}, Chain (HasChar line chars) taken start stop →
          (taken ≤ limit.getD (line.size + 1) ↔ ∀ bound ∈ limit, taken ≤ bound) := by
        intro taken stop chain
        cases limit with
        | some bound => simp
        | none =>
            have inside : stop ≤ line.size :=
              chain.le_bound (fun here _ => here.lt_size) within
            have := (chain_hasChar_iff.mp chain).1
            simp only [Option.getD_none, Option.not_mem_none, false_implies, implies_true,
              iff_true]
            omega
      constructor
      · rintro ⟨stop, ⟨taken, bounded, chain⟩, holds⟩
        exact ⟨stop, ⟨taken, (few chain).mp bounded, chain⟩, holds⟩
      · rintro ⟨stop, ⟨taken, bounded, chain⟩, holds⟩
        exact ⟨stop, ⟨taken, (few chain).mpr bounded, chain⟩, holds⟩

end Goal

end Pattern
end ScriptAudit
