import ScriptAudit.Proofs.Pattern.Search

/-!
# Plans realize expressions

Every plan that is made for an expression without references finds the matches of the
expression. Where the search may come back to a part, its plan leads to every end of a
match. Elsewhere, at the end of a lookaround, it is enough to know that there is one, so
a part may be settled as a whole although its matches differ in width.
-/

namespace ScriptAudit
namespace Pattern

/-- Unless the search may come back to a part, what has to hold behind it says nothing
about where it ends. -/
def Suits (resumable : Bool) (condition : Nat → Prop) : Prop :=
  resumable = false → ∀ ⦃position other⦄, condition position → condition other

theorem suits_true (condition : Nat → Prop) : Suits true condition := by
  intro impossible
  cases impossible

theorem suits_const (resumable : Bool) (answer : Prop) :
    Suits resumable fun _ => answer :=
  fun _ _ _ => id

namespace Plan

/-- Carry out a plan on a line and then reach a goal. -/
def carryOut (line : Line) (plan : Plan Regex) (goal : Goal) : Goal :=
  (plan.map (Regex.prospect line)).run line goal

/-- Carrying out a plan leads along a relation. -/
def Realizes
    (line : Line)
    (resumable : Bool)
    (plan : Plan Regex)
    (relation : Nat → Nat → Prop) : Prop :=
  ∀ ⦃goal condition⦄, Suits resumable condition → goal.Decides line condition →
    (plan.carryOut line goal).Decides line fun start =>
      ∃ stop, relation start stop ∧ condition stop

variable {line : Line} {resumable : Bool} {plan : Plan Regex}
variable {relation other : Nat → Nat → Prop}

namespace Realizes

theorem precedes (realizes : plan.Realizes line true relation) :
    Precedes line relation (plan.carryOut line) :=
  fun _ _ => realizes (suits_true _)

theorem of_precedes (precedes : Precedes line relation (plan.carryOut line)) :
    plan.Realizes line resumable relation :=
  fun _ _ _ => (precedes ·)

theorem of_resumable (realizes : plan.Realizes line true relation) :
    plan.Realizes line resumable relation :=
  of_precedes realizes.precedes

theorem congr
    (realizes : plan.Realizes line resumable relation)
    (same : ∀ start stop, relation start stop ↔ other start stop) :
    plan.Realizes line resumable other := by
  intro goal condition suits decides
  exact (realizes suits decides).congr fun start _ => by simp only [same]

end Realizes

/-! ## Single steps -/

theorem pass_realizes : (pass : Plan Regex).Realizes line resumable (· = ·) := by
  intro goal condition suits decides
  exact decides.congr fun position _ => by simp

theorem set_realizes (chars : CharSet) :
    (set chars : Plan Regex).Realizes line resumable
      ((Regex.set chars).Matches line) := by
  refine Realizes.congr (Realizes.of_precedes (Goal.set_precedes chars))
    fun start stop => ?_
  simp only [Goal.HasChar, Line.hasAt, Option.any_eq_true, Regex.Matches]
  exact and_comm

theorem assertion_realizes (condition : Assertion) :
    (assertion condition : Plan Regex).Realizes line resumable
      ((Regex.assertion condition).Matches line) := by
  intro goal behind suits decides spot left within
  by_cases holds : condition.holds line spot.position = true
  · simpa [carryOut, map, run, holds, Regex.Matches] using decides spot left within
  · simp [carryOut, map, run, holds, Regex.Matches]

end Plan

/-! ## Settled parts -/

theorem getD_foldl_setIfInBounds
    {members : List Nat}
    {table : Array Bool}
    {position : Nat}
    (within : position < table.size) :
    (members.foldl (fun table position => table.setIfInBounds position true) table).getD
        position false = true ↔
      table.getD position false = true ∨ position ∈ members := by
  induction members generalizing table with
  | nil => simp
  | cons first members inductionHypothesis =>
      rw [List.foldl_cons, inductionHypothesis (by simpa using within), List.mem_cons,
        ← or_assoc]
      refine or_congr_left ?_
      simp only [Array.getD_eq_getD_getElem?, Array.getElem?_setIfInBounds]
      by_cases here : first = position
      · simp [here, within]
      · simp [here, Ne.symm here]

/-- The table of a settled part holds the positions from which it matches. -/
theorem starts_iff
    {line : Line}
    {part : Regex}
    {position : Nat}
    (within : position ≤ line.size) :
    (part.prospect line).starts.get.getD position false = true ↔
      ∃ stop, part.Matches line position stop := by
  have bound : position < (Array.replicate (line.size + 1) false).size := by
    simpa using Nat.lt_succ_of_le within
  have retraces : Retraces line.size (part.origins line) (part.Matches line) :=
    part.origins_retraces
  rw [← Regex.mem_origins_positions_iff retraces within]
  refine (getD_foldl_setIfInBounds bound).trans (or_iff_right ?_)
  rw [Array.getD_eq_getD_getElem?, Array.getElem?_replicate]
  split <;> simp

namespace Plan

variable {line : Line} {resumable : Bool} {part : Regex}

/-- A part can be settled if all its matches have one width, or if nothing depends on
where they end. -/
theorem settled_realizes
    {width : Nat}
    (fixed : part.width? = some width ∨ resumable = false ∧ width = 0) :
    (settled part width).Realizes line resumable (part.Matches line) := by
  intro goal condition suits decides spot left within
  by_cases isStart : ∃ stop, part.Matches line spot.position stop
  · have table := (starts_iff within).mpr isStart
    obtain ⟨stop, isMatch⟩ := isStart
    have unfolded : (settled part width).carryOut line goal spot left =
        goal { spot with position := spot.position + width } left := if_pos table
    rw [unfolded]
    rcases fixed with hasWidth | ⟨final, rfl⟩
    · have reached := isMatch.eq_add_width hasWidth
      refine (decides _ left (reached ▸ isMatch.le_size within)).congr ?_
      constructor
      · intro holds
        exact ⟨_, reached ▸ isMatch, holds⟩
      · rintro ⟨other, isOther, holds⟩
        exact isOther.eq_add_width hasWidth ▸ holds
    · refine (decides _ left within).congr ?_
      constructor
      · intro holds
        exact ⟨stop, isMatch, suits final holds⟩
      · rintro ⟨_, _, holds⟩
        exact suits final holds
  · have table : (part.prospect line).starts.get.getD spot.position false = false := by
      rw [← Bool.not_eq_true, starts_iff within]
      exact isStart
    have unfolded : (settled part width).carryOut line goal spot left = .failed left :=
      if_neg (by rw [table]; exact Bool.false_ne_true)
    rw [unfolded]
    rintro ⟨stop, isMatch, -⟩
    exact isStart ⟨stop, isMatch⟩

/-! ## Sequences and alternatives -/

variable {plan : Plan Regex} {goal : Goal}

theorem carryOut_seq_cons (first : Plan Regex) (rest : List (Plan Regex)) :
    (seq (first :: rest)).carryOut line goal =
      first.carryOut line ((seq rest).carryOut line goal) := by
  cases rest <;> rfl

theorem carryOut_seq_append (front back : List (Plan Regex)) :
    (seq (front ++ back)).carryOut line goal =
      (seq front).carryOut line ((seq back).carryOut line goal) := by
  induction front with
  | nil => rfl
  | cons first front inductionHypothesis =>
      simp only [List.cons_append, carryOut_seq_cons, inductionHypothesis]

/-- A sequence in two parts leads along both relations. The search may come back to the
first part. -/
theorem seq_append_realizes
    {front back : List (Plan Regex)}
    {first second : Nat → Nat → Prop}
    (frontRealizes : (seq front).Realizes line true first)
    (backRealizes : (seq back).Realizes line resumable second) :
    (seq (front ++ back)).Realizes line resumable fun start stop =>
      ∃ middle, first start middle ∧ second middle stop := by
  intro goal condition suits decides
  rw [carryOut_seq_append]
  refine (frontRealizes.precedes (backRealizes suits decides)).congr fun start _ => ?_
  constructor
  · rintro ⟨middle, early, stop, late, holds⟩
    exact ⟨stop, ⟨middle, early, late⟩, holds⟩
  · rintro ⟨stop, ⟨middle, early, late⟩, holds⟩
    exact ⟨middle, early, stop, late, holds⟩

/-- Plans for each of some expressions, one after the other. -/
theorem seq_realizes
    {plans : List (Plan Regex)}
    {parts : List Regex}
    (realize : List.Forall₂ (fun part plan => plan.Realizes line true (part.Matches line))
      parts plans) :
    (seq plans).Realizes line true ((Regex.seq parts).Matches line) := by
  induction realize with
  | nil => exact pass_realizes
  | @cons part plan parts plans here later inductionHypothesis =>
      have first : (seq [plan]).Realizes line true (part.Matches line) := here
      have both := seq_append_realizes first inductionHypothesis
      exact both.congr fun start stop => (Regex.matches_seq_cons part parts).symm

/-- Plans for each of some expressions, as alternatives. -/
theorem oneOf_realizes
    {plans : List (Plan Regex)}
    {branches : List Regex}
    (realize : List.Forall₂
      (fun branch plan => plan.Realizes line resumable (branch.Matches line))
        branches plans)
    (nonempty : branches ≠ []) :
    (oneOf plans).Realizes line resumable ((Regex.oneOf branches).Matches line) := by
  induction realize with
  | nil => exact absurd rfl nonempty
  | @cons branch plan branches plans here later inductionHypothesis =>
      cases later with
      | nil => exact here
      | cons there later =>
          intro goal condition suits decides
          refine (Goal.choose_decides (here suits decides)
            (inductionHypothesis (List.cons_ne_nil _ _) suits decides)).congr
              fun start _ => ?_
          constructor
          · rintro (⟨stop, isFirst, holds⟩ | ⟨stop, isOther, holds⟩)
            · exact ⟨stop, .inl isFirst, holds⟩
            · exact ⟨stop, .inr isOther, holds⟩
          · rintro ⟨stop, isFirst | isOther, holds⟩
            · exact .inl ⟨stop, isFirst, holds⟩
            · exact .inr ⟨stop, isOther, holds⟩

/-! ## Repetitions -/

variable {relation : Nat → Nat → Prop} {low : Nat} {high : Option Nat} {greedy : Bool}

theorem carryOut_iterate_set (chars : CharSet) :
    (iterate (set chars) low high greedy).carryOut line goal =
      copies ((Plan.set chars).run line) (min low (high.getD low))
        (if greedy then takeRun line chars (high.map (· - low)) goal
        else lengthen line chars goal ((high.map (· - low)).getD (line.size + 1))) := rfl

theorem carryOut_iterate (noSet : ∀ chars, plan ≠ .set chars) :
    (iterate plan low high greedy).carryOut line goal =
      copies (plan.carryOut line) (min low (high.getD low))
        (match high with
        | some bound => furtherUpTo (plan.carryOut line) greedy goal (bound - low)
        | none => further (plan.carryOut line) greedy goal (line.size + 1)) := by
  cases plan with
  | set chars => exact absurd rfl (noSet chars)
  | _ => rfl

/-- The goal behind the copies that a repetition needs: some of those that it may take,
and then what follows. -/
theorem exists_carryOut_iterate
    {condition : Nat → Prop}
    (forward : ∀ {start stop}, relation start stop → start ≤ stop)
    (realizes : plan.Realizes line true relation)
    (decides : goal.Decides line condition) :
    ∃ behind : Goal,
      (iterate plan low high greedy).carryOut line goal =
        copies (plan.carryOut line) (min low (high.getD low)) behind ∧
      behind.Decides line fun start =>
        ∃ stop, (∃ count, (∀ bound ∈ high, count ≤ bound - low) ∧
          Chain relation count start stop) ∧ condition stop := by
  by_cases isSet : ∃ chars, plan = .set chars
  · obtain ⟨chars, rfl⟩ := isSet
    refine ⟨_, carryOut_iterate_set chars, ?_⟩
    have same : ∀ {count start stop}, start ≤ line.size →
        (Chain (Goal.HasChar line chars) count start stop ↔
          Chain relation count start stop) :=
      fun within => chain_congr_within (fun here _ => here.lt_size)
        (fun within => (Goal.hasChar_iff_of_precedes realizes.precedes
          within).symm) within
    refine (Goal.run_decides greedy decides (high.map (· - low))).congr
      fun start within => ?_
    cases high <;> simp [same within]
  · rw [not_exists] at isSet
    refine ⟨_, carryOut_iterate isSet, ?_⟩
    cases high with
    | some bound =>
        exact (Goal.furtherUpTo_decides realizes.precedes decides greedy
          (bound - low)).congr fun start _ => by simp
    | none =>
        intro spot left within
        exact (Goal.further_answers forward realizes.precedes decides greedy
          (by omega) within left).congr (by simp)

/-- The search may come back to the body of a repetition. -/
theorem iterate_realizes
    (forward : ∀ {start stop}, relation start stop → start ≤ stop)
    (realizes : plan.Realizes line true relation) :
    (iterate plan low high greedy).Realizes line resumable
      (Repeats relation low high) := by
  intro goal condition suits decides
  obtain ⟨behind, unfolded, behindDecides⟩ :=
    exists_carryOut_iterate forward realizes decides
  rw [unfolded]
  refine (Goal.copies_decides realizes.precedes behindDecides _).congr fun start _ => ?_
  simp only [repeats_iff]
  constructor
  · rintro ⟨middle, early, stop, later, holds⟩
    exact ⟨stop, ⟨middle, early, later⟩, holds⟩
  · rintro ⟨stop, ⟨middle, early, later⟩, holds⟩
    exact ⟨middle, early, stop, later, holds⟩

theorem exists_optional_iff
    {condition : Nat → Prop}
    {start : Nat}
    (indifferent : ∀ ⦃position other⦄, condition position → condition other) :
    (∃ stop, Repeats relation 0 (some 1) start stop ∧ condition stop) ↔
      condition start := by
  constructor
  · rintro ⟨stop, _, holds⟩
    exact indifferent holds
  · intro holds
    exact ⟨start, repeats_optional_iff.mpr (.inl rfl), holds⟩

/-- An optional part takes one choice, so that the search need not come back to it more
often than to what it encloses. -/
theorem optional_realizes
    (forward : ∀ {start stop}, relation start stop → start ≤ stop)
    (realizes : plan.Realizes line resumable relation) :
    (iterate plan 0 (some 1) greedy).Realizes line resumable
      (Repeats relation 0 (some 1)) := by
  cases resumable with
  | true => exact iterate_realizes forward realizes
  | false =>
      intro goal condition suits decides
      have indifferent := suits rfl
      by_cases isSet : ∃ chars, plan = .set chars
      · obtain ⟨chars, rfl⟩ := isSet
        have taken : (iterate (set chars) 0 (some 1) greedy).Realizes line false
            (Repeats (Goal.HasChar line chars) 0 (some 1)) :=
          iterate_realizes (fun here => here.2 ▸ Nat.le_succ _)
            (Realizes.of_precedes (Goal.set_precedes chars))
        exact (taken suits decides).congr fun start _ => by
          simp only [exists_optional_iff indifferent]
      · rw [not_exists] at isSet
        rw [carryOut_iterate isSet]
        refine (Goal.choose_greedy_decides greedy (realizes suits decides) decides).congr
          fun start _ => ?_
        rw [exists_optional_iff indifferent]
        refine or_iff_left_of_imp ?_
        rintro ⟨_, _, holds⟩
        exact indifferent holds

/-! ## Lookaround -/

/-- The condition of a lookaround that starts some characters earlier. -/
def LooksBack
    (relation : Nat → Nat → Prop)
    (back : Nat)
    (negated : Bool)
    (position : Nat) : Prop :=
  (back ≤ position ∧ ∃ stop, relation (position - back) stop) ↔ negated = false

/-- Nothing depends on where the body of a lookaround ends. -/
theorem look_realizes
    {back : Nat}
    {negated : Bool}
    (realizes : plan.Realizes line false relation) :
    (look back negated plan).Realizes line resumable fun start stop =>
      start = stop ∧ LooksBack relation back negated start := by
  intro goal condition suits decides spot left within
  have origin : spot.position - back ≤ line.size := by omega
  simp only [LooksBack]
  cases negated with
  | false =>
      have stays : Goal.Decides line
          (fun inner => goal { inner with position := spot.position })
          fun _ => condition spot.position := fun inner left _ => decides _ left within
      have answers := realizes (suits_const false _) stays
        { spot with position := spot.position - back } left origin
      by_cases room : back ≤ spot.position
      · have unfolded : (look back false plan).carryOut line goal spot left =
            plan.carryOut line (fun inner =>
              goal { inner with position := spot.position })
              { spot with position := spot.position - back } left := if_pos room
        rw [unfolded]
        exact answers.congr (by simp [room])
      · have unfolded : (look back false plan).carryOut line goal spot left =
            .failed left :=
          if_neg room
        rw [unfolded]
        simp [room]
  | true =>
      have unfolded : (look back true plan).carryOut line goal spot left =
          openChoices spot 1 fun opened =>
            Outcome.afterFailure
              (if back ≤ spot.position then
                plan.carryOut line Goal.done
                  { opened with position := spot.position - back } left
              else .failed left)
              (goal spot) := rfl
      rw [unfolded]
      apply Outcome.answers_openChoices
      have answers := realizes (suits_const false True) Goal.done_decides
        { spot with
          position := spot.position - back
          pending := spot.pending + 1 } left origin
      have looked : Outcome.Answers
          (if back ≤ spot.position then
            plan.carryOut line Goal.done
              { spot with
                position := spot.position - back
                pending := spot.pending + 1 } left
          else .failed left)
          (back ≤ spot.position ∧ ∃ stop, relation (spot.position - back) stop) := by
        split
        · rename_i room
          exact answers.congr (by simp [room])
        · rename_i room
          exact fun impossible => room impossible.1
      refine (looked.afterFailure fun left => decides spot left within).congr ?_
      simp

end Plan
end Pattern
end ScriptAudit
