import Mathlib.Data.List.Basic
import ScriptAudit.Pattern.Meaning

/-!
# Matches and chains

An expression matches forward and inside of its line, and over one width if it has
one. A repetition is a chain of matches of its body. Copies that match nothing can be
left out of a chain, so that a chain between two positions need not have more copies
than there are characters between them.
-/

namespace ScriptAudit
namespace Pattern

/-! ## Chains -/

section Chains

variable {step : Nat → Nat → Prop} {count start stop : Nat}

@[simp] theorem chain_zero : Chain step 0 start stop ↔ start = stop := Iff.rfl

theorem chain_succ :
    Chain step (count + 1) start stop ↔
      ∃ middle, step start middle ∧ Chain step count middle stop := Iff.rfl

theorem chain_one : Chain step 1 start stop ↔ step start stop := by
  simp [chain_succ]

/-- A chain consists of a shorter one and of what remains of it. -/
theorem chain_add (first second : Nat) :
    Chain step (first + second) start stop ↔
      ∃ middle, Chain step first start middle ∧ Chain step second middle stop := by
  induction first generalizing start with
  | zero => simp
  | succ first inductionHypothesis =>
      rw [Nat.add_right_comm]
      simp only [chain_succ, inductionHypothesis]
      constructor
      · rintro ⟨next, here, middle, early, late⟩
        exact ⟨middle, ⟨next, here, early⟩, late⟩
      · rintro ⟨middle, ⟨next, here, early⟩, late⟩
        exact ⟨next, here, middle, early, late⟩

/-- A chain with its last step set apart. -/
theorem chain_succ_last :
    Chain step (count + 1) start stop ↔
      ∃ middle, Chain step count start middle ∧ step middle stop := by
  simp only [chain_add count 1, chain_one]

theorem Chain.le
    (forward : ∀ {start stop}, step start stop → start ≤ stop)
    (chain : Chain step count start stop) :
    start ≤ stop := by
  induction count generalizing start with
  | zero => exact Nat.le_of_eq chain
  | succ count inductionHypothesis =>
      obtain ⟨middle, here, later⟩ := chain
      exact Nat.le_trans (forward here) (inductionHypothesis later)

theorem Chain.le_bound
    {bound : Nat}
    (stays : ∀ {start stop}, step start stop → start ≤ bound → stop ≤ bound)
    (chain : Chain step count start stop)
    (within : start ≤ bound) :
    stop ≤ bound := by
  induction count generalizing start with
  | zero => exact chain ▸ within
  | succ count inductionHypothesis =>
      obtain ⟨middle, here, later⟩ := chain
      exact inductionHypothesis later (stays here within)

/-- Only steps from positions up to a bound matter for a chain that stays below it. -/
theorem chain_congr_within
    {other : Nat → Nat → Prop}
    {bound : Nat}
    (stays : ∀ {start stop}, step start stop → start ≤ bound → stop ≤ bound)
    (same : ∀ {start stop}, start ≤ bound → (step start stop ↔ other start stop))
    (within : start ≤ bound) :
    Chain step count start stop ↔ Chain other count start stop := by
  induction count generalizing start with
  | zero => exact Iff.rfl
  | succ count inductionHypothesis =>
      simp only [chain_succ]
      constructor
      · rintro ⟨middle, here, later⟩
        exact ⟨middle, (same within).mp here,
          (inductionHypothesis (stays here within)).mp later⟩
      · rintro ⟨middle, here, later⟩
        have here := (same within).mpr here
        exact ⟨middle, here, (inductionHypothesis (stays here within)).mpr later⟩

/-- Steps of one width add up. -/
theorem Chain.eq_add_mul
    {width : Nat}
    (fixed : ∀ {start stop}, step start stop → stop = start + width)
    (chain : Chain step count start stop) :
    stop = start + width * count := by
  induction count generalizing start with
  | zero => exact Eq.symm chain
  | succ count inductionHypothesis =>
      obtain ⟨middle, here, later⟩ := chain
      rw [inductionHypothesis later, fixed here, Nat.mul_succ]
      omega

/-- Steps that do not move can be left out of a chain. -/
theorem Chain.exists_short
    (forward : ∀ {start stop}, step start stop → start ≤ stop)
    (chain : Chain step count start stop) :
    ∃ fewer, fewer ≤ stop - start ∧ Chain step fewer start stop := by
  induction count generalizing start with
  | zero => exact ⟨0, Nat.zero_le _, chain⟩
  | succ count inductionHypothesis =>
      obtain ⟨middle, here, later⟩ := chain
      obtain ⟨fewer, short, rest⟩ := inductionHypothesis later
      rcases Nat.eq_or_lt_of_le (forward here) with rfl | moved
      · exact ⟨fewer, short, rest⟩
      · have reached := later.le forward
        exact ⟨fewer + 1, by omega, middle, here, rest⟩

/-- A chain that moves has a first step that moves. -/
theorem Chain.eq_or_exists_first
    (forward : ∀ {start stop}, step start stop → start ≤ stop)
    (chain : Chain step count start stop) :
    start = stop ∨
      ∃ middle fewer, start < middle ∧ step start middle ∧
        Chain step fewer middle stop := by
  induction count generalizing start with
  | zero => exact .inl chain
  | succ count inductionHypothesis =>
      obtain ⟨middle, here, later⟩ := chain
      rcases Nat.eq_or_lt_of_le (forward here) with rfl | moved
      · exact inductionHypothesis later
      · exact .inr ⟨middle, count, moved, here, later⟩

/-- A chain that moves has a last step that moves. -/
theorem Chain.eq_or_exists_last
    (forward : ∀ {start stop}, step start stop → start ≤ stop)
    (chain : Chain step count start stop) :
    start = stop ∨
      ∃ middle fewer, middle < stop ∧ Chain step fewer start middle ∧
        step middle stop := by
  induction count generalizing stop with
  | zero => exact .inl chain
  | succ count inductionHypothesis =>
      obtain ⟨middle, early, here⟩ := chain_succ_last.mp chain
      rcases Nat.eq_or_lt_of_le (forward here) with rfl | moved
      · exact inductionHypothesis early
      · exact .inr ⟨middle, count, moved, early, here⟩

end Chains

/-! ## Repetitions -/

/-- A number of steps between two bounds. -/
def Repeats
    (step : Nat → Nat → Prop)
    (low : Nat)
    (high : Option Nat)
    (start stop : Nat) : Prop :=
  ∃ count, min low (high.getD low) ≤ count ∧ (∀ bound ∈ high, count ≤ bound) ∧
    Chain step count start stop

section Repetitions

variable {step : Nat → Nat → Prop} {low start stop : Nat}

/-- A repetition takes the copies that it needs and then some of those that it may
take. -/
theorem repeats_iff {high : Option Nat} :
    Repeats step low high start stop ↔
      ∃ middle, Chain step (min low (high.getD low)) start middle ∧
        ∃ count, (∀ bound ∈ high, count ≤ bound - low) ∧
          Chain step count middle stop := by
  constructor
  · rintro ⟨count, enough, notMore, chain⟩
    rw [← Nat.add_sub_of_le enough, chain_add] at chain
    obtain ⟨middle, early, late⟩ := chain
    refine ⟨middle, early, count - min low (high.getD low), ?_, late⟩
    rintro bound rfl
    have := notMore bound rfl
    simp only [Option.getD_some]
    omega
  · rintro ⟨middle, early, count, notMore, late⟩
    refine ⟨min low (high.getD low) + count, Nat.le_add_right _ _, ?_,
      (chain_add _ _).mpr ⟨middle, early, late⟩⟩
    rintro bound rfl
    have := notMore bound rfl
    simp only [Option.getD_some]
    omega

/-- At most one step. -/
theorem repeats_optional_iff :
    Repeats step 0 (some 1) start stop ↔ start = stop ∨ step start stop := by
  constructor
  · rintro ⟨count, -, notMore, chain⟩
    match count, notMore 1 rfl, chain with
    | 0, _, same => exact .inl same
    | 1, _, single => exact .inr (chain_one.mp single)
  · rintro (same | single)
    · exact ⟨0, by simp, by simp, same⟩
    · exact ⟨1, by simp, by simp, chain_one.mpr single⟩

end Repetitions

/-! ## Matches -/

namespace Regex

variable {line : Line} {regex : Regex} {start stop : Nat}

theorem matches_iterate
    {body : Regex}
    {low : Nat}
    {high : Option Nat}
    {greedy : Bool} :
    (iterate body low high greedy).Matches line start stop ↔
      Repeats (body.Matches line) low high start stop := Iff.rfl

/-- A repetition that asks for a copy, and allows for it, starts with a match of its
body. -/
theorem Matches.exists_copy
    {body : Regex}
    {low : Nat}
    {high : Option Nat}
    {greedy : Bool}
    (isMatch : (iterate body low high greedy).Matches line start stop)
    (valid : (iterate body low high greedy).boundsValid = true)
    (asked : 0 < low) :
    ∃ middle count, body.Matches line start middle ∧
      Chain (body.Matches line) count middle stop := by
  simp only [boundsValid, Bool.and_eq_true, decide_eq_true_eq] at valid
  obtain ⟨count, enough, -, chain⟩ := isMatch
  have taken : 0 < count := by
    cases high with
    | none => simp at enough; omega
    | some bound => simp at enough valid; omega
  obtain ⟨fewer, rfl⟩ : ∃ fewer, count = fewer + 1 := ⟨count - 1, by omega⟩
  obtain ⟨middle, here, later⟩ := chain
  exact ⟨middle, fewer, here, later⟩

/-- A match does not end before it starts. -/
theorem Matches.le (isMatch : regex.Matches line start stop) : start ≤ stop := by
  induction regex generalizing start stop with
  | empty => exact Nat.le_of_eq isMatch
  | set chars =>
      obtain ⟨rfl, _⟩ := isMatch
      exact Nat.le_succ start
  | assertion condition => exact Nat.le_of_eq isMatch.1
  | cat first second firstHypothesis secondHypothesis =>
      obtain ⟨middle, early, late⟩ := isMatch
      exact Nat.le_trans (firstHypothesis early) (secondHypothesis late)
  | alt first second firstHypothesis secondHypothesis =>
      exact isMatch.elim firstHypothesis secondHypothesis
  | iterate body low high greedy inductionHypothesis =>
      obtain ⟨count, _, _, chain⟩ := isMatch
      exact chain.le inductionHypothesis
  | group index body inductionHypothesis => exact inductionHypothesis isMatch
  | look side negated body inductionHypothesis =>
      cases side <;> exact Nat.le_of_eq isMatch.1
  | backref index => exact isMatch.elim
  | once body inductionHypothesis => exact isMatch.elim

/-- A match that starts in a line ends in it. -/
theorem Matches.le_size
    (isMatch : regex.Matches line start stop)
    (within : start ≤ line.size) :
    stop ≤ line.size := by
  induction regex generalizing start stop with
  | empty => exact isMatch ▸ within
  | set chars =>
      obtain ⟨rfl, char, found, _⟩ := isMatch
      exact (Array.getElem?_eq_some_iff.mp found).1
  | assertion condition => exact isMatch.1 ▸ within
  | cat first second firstHypothesis secondHypothesis =>
      obtain ⟨middle, early, late⟩ := isMatch
      exact secondHypothesis late (firstHypothesis early within)
  | alt first second firstHypothesis secondHypothesis =>
      rcases isMatch with left | right
      · exact firstHypothesis left within
      · exact secondHypothesis right within
  | iterate body low high greedy inductionHypothesis =>
      obtain ⟨count, _, _, chain⟩ := isMatch
      exact chain.le_bound inductionHypothesis within
  | group index body inductionHypothesis => exact inductionHypothesis isMatch within
  | look side negated body inductionHypothesis => cases side <;> exact isMatch.1 ▸ within
  | backref index => exact isMatch.elim
  | once body inductionHypothesis => exact isMatch.elim

/-- All matches of an expression with a width have that width. -/
theorem Matches.eq_add_width
    {width : Nat}
    (isMatch : regex.Matches line start stop)
    (hasWidth : regex.width? = some width) :
    stop = start + width := by
  induction regex generalizing start stop width with
  | empty =>
      obtain rfl : 0 = width := by simpa [width?] using hasWidth
      exact isMatch.symm
  | set chars =>
      obtain rfl : 1 = width := by simpa [width?] using hasWidth
      exact isMatch.1
  | assertion condition =>
      obtain rfl : 0 = width := by simpa [width?] using hasWidth
      exact isMatch.1.symm
  | cat first second firstHypothesis secondHypothesis =>
      obtain ⟨middle, early, late⟩ := isMatch
      simp only [width?] at hasWidth
      split at hasWidth
      · rename_i left right firstWidth secondWidth
        have middleAt := firstHypothesis early firstWidth
        have stopAt := secondHypothesis late secondWidth
        simp only [Option.some.injEq] at hasWidth
        omega
      · cases hasWidth
  | alt first second firstHypothesis secondHypothesis =>
      simp only [width?] at hasWidth
      split at hasWidth
      · rename_i left right firstWidth secondWidth
        split at hasWidth
        · rename_i same
          obtain rfl : left = width := by simpa using hasWidth
          rcases isMatch with isFirst | isSecond
          · exact firstHypothesis isFirst firstWidth
          · exact secondHypothesis isSecond (same ▸ secondWidth)
        · cases hasWidth
      · cases hasWidth
  | iterate body low high greedy inductionHypothesis =>
      simp only [width?] at hasWidth
      split at hasWidth
      · rename_i single bodyWidth
        split at hasWidth
        · rename_i exact
          obtain rfl : single * low = width := by simpa using hasWidth
          obtain ⟨count, enough, notMore, chain⟩ := isMatch
          have counted : count = low := by
            have atMost := notMore low exact
            simp only [exact, Option.getD_some] at enough
            omega
          subst counted
          exact chain.eq_add_mul fun isCopy => inductionHypothesis isCopy bodyWidth
        · cases hasWidth
      · cases hasWidth
  | group index body inductionHypothesis => exact inductionHypothesis isMatch hasWidth
  | look side negated body inductionHypothesis =>
      obtain rfl : 0 = width := by simpa [width?] using hasWidth
      cases side <;> exact isMatch.1.symm
  | backref index => exact isMatch.elim
  | once body inductionHypothesis => exact isMatch.elim

/-! ## Parts and alternatives -/

theorem matches_seq_cons
    (first : Regex)
    (rest : List Regex) :
    (seq (first :: rest)).Matches line start stop ↔
      ∃ middle, first.Matches line start middle ∧
        (seq rest).Matches line middle stop := by
  cases rest with
  | nil => simp [seq, Matches]
  | cons second rest => exact Iff.rfl

theorem matches_seq_append
    (front back : List Regex) :
    (seq (front ++ back)).Matches line start stop ↔
      ∃ middle, (seq front).Matches line start middle ∧
        (seq back).Matches line middle stop := by
  induction front generalizing start with
  | nil => simp [seq, Matches]
  | cons first front inductionHypothesis =>
      simp only [List.cons_append, matches_seq_cons, inductionHypothesis]
      constructor
      · rintro ⟨next, here, middle, early, late⟩
        exact ⟨middle, ⟨next, here, early⟩, late⟩
      · rintro ⟨middle, ⟨next, here, early⟩, late⟩
        exact ⟨next, here, middle, early, late⟩

theorem matches_oneOf_iff
    {branches : List Regex}
    (nonempty : branches ≠ []) :
    (oneOf branches).Matches line start stop ↔
      ∃ branch ∈ branches, branch.Matches line start stop := by
  induction branches with
  | nil => exact absurd rfl nonempty
  | cons first rest inductionHypothesis =>
      cases rest with
      | nil => simp [oneOf]
      | cons second rest =>
          have unfolded : (oneOf (first :: second :: rest)).Matches line start stop ↔
              first.Matches line start stop ∨
                (oneOf (second :: rest)).Matches line start stop := Iff.rfl
          rw [unfolded, inductionHypothesis (List.cons_ne_nil _ _)]
          simp only [List.exists_mem_cons_iff]

end Regex
end Pattern
end ScriptAudit
