import ScriptAudit.Pattern.Compiled
import ScriptAudit.Proofs.Pattern.Outline

/-!
# Matching means occurrence

A compiled pattern matches a line exactly if the expression that it denotes occurs in
the line, whichever engine searches for it, or if the backtracking engine gave up on
the line.
-/

namespace ScriptAudit
namespace Pattern

/-! ## Searching for a start -/

namespace Regex

variable {line : Line} {regex : Regex}

theorem occurs_iff :
    regex.Occurs line ↔ ∃ start, start ≤ line.size ∧
      ∃ stop, regex.Matches line start stop := by
  constructor
  · rintro ⟨start, stop, ordered, within, isMatch⟩
    exact ⟨start, Nat.le_trans ordered within, stop, isMatch⟩
  · rintro ⟨start, within, stop, isMatch⟩
    exact ⟨start, stop, isMatch.le, isMatch.le_size within, isMatch⟩

end Regex

namespace Plan

variable {line : Line} {plan : Plan Regex} {regex : Regex}

/-- A search from start to start answers whether there is a match from one of them. -/
theorem searchFrom_answers
    {relation : Nat → Nat → Prop}
    (realizes : plan.Realizes line true relation)
    {starts position : Nat}
    (within : position + starts ≤ line.size + 1)
    (left : Nat) :
    ((plan.map (Regex.prospect line)).searchFrom line starts position left).Answers
      (∃ start,
        position ≤ start ∧ start < position + starts ∧ ∃ stop, relation start stop) := by
  induction starts generalizing position left with
  | zero =>
      rintro ⟨start, notBefore, before, -⟩
      omega
  | succ starts inductionHypothesis =>
      have here := realizes (suits_true _) Goal.done_decides ⟨position, [], 1⟩ left
        (by change position ≤ line.size; omega)
      have later := @inductionHypothesis (position + 1) (by omega)
      rw [searchFrom]
      refine (Outcome.Answers.orRetry _ _ here later).congr ?_
      constructor
      · rintro (⟨stop, isMatch, -⟩ | ⟨start, notBefore, before, isMatch⟩)
        · exact ⟨position, Nat.le_refl _, by omega, stop, isMatch⟩
        · exact ⟨start, by omega, by omega, isMatch⟩
      · rintro ⟨start, notBefore, before, stop, isMatch⟩
        rcases Nat.eq_or_lt_of_le notBefore with rfl | after
        · exact .inl ⟨stop, isMatch, trivial⟩
        · exact .inr ⟨start, after, by omega, stop, isMatch⟩

/-- A search along the plan of a direct expression answers whether the expression
occurs. -/
theorem search_answers
    (direct : regex.isDirect = true)
    (planned : regex.plan? = some plan) :
    (plan.search line).Answers (regex.Occurs line) := by
  rw [Regex.plan?, Regex.refersBack_of_isDirect direct] at planned
  have realizes : plan.Realizes line true (regex.Matches line) :=
    (Regex.outline_isSound direct true).plan plan planned
  refine (searchFrom_answers realizes (by omega) searchLimit).congr ?_
  simp only [Regex.occurs_iff, Nat.zero_le, Nat.zero_add, true_and, Nat.lt_succ_iff]

end Plan

/-! ## Engines -/

/-- The backtracking engine gave up on a line. -/
def Engine.GivesUpOn (line : Line) (engine : Engine) : Prop :=
  ∃ plan reason, engine = .backtracking plan ∧ plan.search line = .aborted reason

/-- An engine that is made for an expression. -/
inductive Engine.Serves : Regex → Engine → Prop
  | linear (regex : Regex) : Serves regex (.linear regex)
  | settled (regex : Regex) : Serves regex (.settled regex)
  | backtracking {regex : Regex} {plan : Plan Regex} :
      regex.plan? = some plan → Serves regex (.backtracking plan)

/-- An engine is made for the expression that the source of a pattern denotes. -/
theorem Engine.exists_serves
    {dialect : Dialect}
    {source : List Char}
    {engine : Engine}
    (made : Engine.ofSource? dialect source = some engine) :
    ∃ regex, parse? dialect source = some regex ∧ engine.Serves regex := by
  cases dialect with
  | linear =>
      obtain ⟨regex, accepted, rfl⟩ := Option.map_eq_some_iff.mp made
      exact ⟨regex, (Option.filter_eq_some_iff.mp accepted).1, .linear regex⟩
  | backtracking =>
      obtain ⟨regex, read, chosen⟩ := Option.bind_eq_some_iff.mp made
      refine ⟨regex, read, ?_⟩
      unfold Engine.ofHard? at chosen
      split at chosen
      · obtain ⟨plan, planned, rfl⟩ := Option.map_eq_some_iff.mp chosen
        exact .backtracking planned
      · split at chosen
        · cases chosen
          exact .settled regex
        · cases chosen

namespace Compiled

variable {compiled : Compiled} {regex : Regex}

theorem isMatch_iff_of_serves
    (serves : compiled.engine.Serves regex)
    (direct : regex.isDirect = true)
    (line : Line) :
    compiled.isMatch line = true ↔
      regex.Occurs line ∨ compiled.engine.GivesUpOn line := by
  obtain ⟨source, engine⟩ := compiled
  cases serves with
  | linear | settled =>
      rw [← Regex.found_iff_occurs]
      cases found : regex.found line <;>
        simp [isMatch, verdict, Verdict.isMatch, Engine.GivesUpOn, found]
  | @backtracking plan planned =>
      have answers : (plan.search line).Answers (regex.Occurs line) :=
        Plan.search_answers direct planned
      cases searched : plan.search line <;>
        simp_all [isMatch, verdict, Verdict.isMatch, Engine.GivesUpOn]

/-- A pattern that is accepted denotes an expression. Unless the expression refers to a
group or keeps only the first way of some part, the pattern matches a line exactly if
the expression occurs in it or the search was given up. -/
theorem isMatch_iff_occurs
    {pattern : String}
    {compiled : Compiled}
    (accepted : Compiled.ofPattern pattern = .ok compiled) :
    ∃ regex,
      parse? (dialectOf pattern.toList) (foldMark ++ pattern).toList = some regex ∧
      (regex.isDirect = true → ∀ line : Line,
        compiled.isMatch line = true ↔
          regex.Occurs line ∨ compiled.engine.GivesUpOn line) := by
  simp only [ofPattern] at accepted
  split at accepted
  · rename_i engine made
    cases accepted
    obtain ⟨regex, read, serves⟩ := Engine.exists_serves made
    exact ⟨regex, read, isMatch_iff_of_serves serves⟩
  · cases accepted

/-- A pattern with a lookbehind, a repetition and a lookahead. -/
theorem isMatch_iff_occurs_guarded :
    ∃ (compiled : Compiled) (regex : Regex),
      ofPattern "(?<!\\w)load\\s*\\((?!.*safe)" = .ok compiled ∧
      regex.isDirect = true ∧
      ∀ line : Line, compiled.isMatch line = true ↔
        regex.Occurs line ∨ compiled.engine.GivesUpOn line := by
  have accepts : (ofPattern "(?<!\\w)load\\s*\\((?!.*safe)").toBool = true := by
    decide +kernel
  have direct : (parse? (dialectOf "(?<!\\w)load\\s*\\((?!.*safe)".toList)
      (foldMark ++ "(?<!\\w)load\\s*\\((?!.*safe)").toList).all Regex.isDirect =
        true := by
    decide +kernel
  cases accepted : ofPattern "(?<!\\w)load\\s*\\((?!.*safe)" with
  | error error =>
      rw [accepted] at accepts
      cases accepts
  | ok compiled =>
      obtain ⟨regex, read, means⟩ := isMatch_iff_occurs accepted
      rw [read] at direct
      exact ⟨compiled, regex, rfl, direct, means direct⟩

end Compiled
end Pattern
end ScriptAudit
