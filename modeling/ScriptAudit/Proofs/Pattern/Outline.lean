import Mathlib.Data.List.Forall2
import ScriptAudit.Proofs.Pattern.Plan

/-!
# Outlines are sound

Every plan that the outline of an expression holds realizes the expression, as long as
no reference and no part that keeps only its first way occurs in it. The parts and the
alternatives that the outline lists put the expression together again, so that what is
settled at the ends of a concatenation, and what is left to the search between them,
match the same as the whole.
-/

namespace ScriptAudit
namespace Pattern

/-! ## Direct expressions -/

namespace Regex

/-- Whether the matches of an expression depend on nothing but the line: no group is
referred to, and no part keeps only its first way. -/
def isDirect : Regex → Bool
  | .cat first second => first.isDirect && second.isDirect
  | .alt first second => first.isDirect && second.isDirect
  | .iterate body _ _ _ => body.isDirect
  | .group _ body => body.isDirect
  | .look _ _ body => body.isDirect
  | .backref _ => false
  | .once _ => false
  | _ => true

theorem refersBack_of_isDirect {regex : Regex} (direct : regex.isDirect = true) :
    regex.refersBack = false := by
  induction regex <;> simp_all [isDirect, refersBack]

theorem isSome_width?_seq
    {parts : List Regex}
    (fixed : ∀ part ∈ parts, part.width?.isSome = true) :
    (seq parts).width?.isSome = true := by
  induction parts with
  | nil => rfl
  | cons first rest inductionHypothesis =>
      cases rest with
      | nil => exact fixed first (List.mem_singleton_self first)
      | cons second rest =>
          obtain ⟨left, leftWidth⟩ := Option.isSome_iff_exists.mp
            (fixed first List.mem_cons_self)
          obtain ⟨right, rightWidth⟩ := Option.isSome_iff_exists.mp
            (inductionHypothesis fun part member =>
              fixed part (List.mem_cons_of_mem _ member))
          simp [seq, width?, leftWidth, rightWidth]

end Regex

/-- What is known around a part of a direct expression: nothing is recorded, and nothing
depends on where the part ends unless the search may come back to it. -/
def Context.plain (resumable : Bool) : Context := ⟨false, resumable, false⟩

/-! ## Sound plans -/

variable {line : Line} {resumable : Bool}

/-- The plan of a part, if it has one, realizes the part. -/
def PlannedPart.IsSound (line : Line) (resumable : Bool) (part : PlannedPart) : Prop :=
  ∀ plan, part.2 = some plan → plan.Realizes line resumable (part.1.Matches line)

theorem forall₂_of_mapM_eq_some
    {α β : Type}
    {step : α → Option β}
    {items : List α}
    {results : List β}
    (done : items.mapM step = some results) :
    List.Forall₂ (fun item result => step item = some result) items results := by
  induction items generalizing results with
  | nil =>
      obtain rfl : [] = results := by simpa using done
      exact .nil
  | cons item items inductionHypothesis =>
      simp only [List.mapM_cons, Option.bind_eq_bind, Option.bind_eq_some_iff,
        Option.pure_def, Option.some.injEq] at done
      obtain ⟨result, here, rest, later, rfl⟩ := done
      exact .cons here (inductionHypothesis later)

/-- The plans of sound parts realize the parts one by one. -/
theorem forall₂_realizes
    {parts : List PlannedPart}
    {plans : List (Plan Regex)}
    (sound : ∀ part ∈ parts, part.IsSound line resumable)
    (planned : parts.mapM Prod.snd = some plans) :
    List.Forall₂ (fun part plan => plan.Realizes line resumable (part.Matches line))
      (parts.map Prod.fst) plans := by
  rw [List.forall₂_map_left_iff]
  have each := forall₂_of_mapM_eq_some planned
  exact ((List.forall₂_and_left _ _).mpr ⟨sound, each⟩).imp fun _ _
    both => both.1 _ both.2

/-! ## Settling -/

namespace Context

/-- A part is settled without losing a match if it has one width, or if nothing depends
on where it ends. -/
theorem realizes_of_settle?
    {part : Regex}
    {plan : Plan Regex}
    (settles : (plain resumable).settle? part = some plan)
    {later : Bool}
    (fixed : part.width?.isSome = true ∨ later = false) :
    plan.Realizes line later (part.Matches line) := by
  simp only [settle?, plain, Bool.false_and, Bool.false_eq_true, if_false] at settles
  split at settles
  · cases settles
  · split at settles
    · cases settles
      exact Plan.pass_realizes
    · cases settles
      exact Plan.set_realizes _
    · rename_i hasWidth
      cases settles
      exact Plan.settled_realizes (.inl hasWidth)
    · rename_i noWidth
      cases settles
      refine Plan.settled_realizes (.inr ⟨?_, rfl⟩)
      simpa [noWidth] using fixed

theorem realizes_of_settleAll?
    {parts : List Regex}
    {plans : List (Plan Regex)}
    (settles : (plain resumable).settleAll? parts = some plans)
    {later : Bool}
    (fixed : (∀ part ∈ parts, part.width?.isSome = true) ∨ later = false) :
    (Plan.seq plans).Realizes line later ((Regex.seq parts).Matches line) := by
  cases parts with
  | nil =>
      cases settles
      exact Plan.pass_realizes
  | cons first rest =>
      obtain ⟨plan, planned, rfl⟩ := Option.map_eq_some_iff.mp settles
      exact realizes_of_settle? planned (fixed.imp_left Regex.isSome_width?_seq)

/-- A part that is settled as a whole, or left as it was planned. -/
theorem finish?_isSound
    {part : Regex}
    {plan : Option (Plan Regex)}
    (sound : PlannedPart.IsSound line resumable (part, plan)) :
    PlannedPart.IsSound line resumable (part, (plain resumable).finish? part plan) := by
  intro made planned
  simp only [finish?] at planned
  split at planned
  · rename_i whole
    have final : resumable = false := by simp_all [plain]
    exact realizes_of_settle? planned (.inr final)
  · exact sound made planned

end Context

/-! ## Concatenations -/

theorem take_append_of_suffix
    {α : Type}
    {back items : List α}
    (suffix : back <:+ items) :
    items.take (items.length - back.length) ++ back = items := by
  obtain ⟨front, rfl⟩ := suffix
  simp

theorem isSome_width?_of_isFixed
    {parts : List PlannedPart}
    (fixed : ∀ part ∈ parts, part.isFixed = true) :
    ∀ part ∈ parts.map Prod.fst, part.width?.isSome = true := by
  rintro _ member
  obtain ⟨part, listed, rfl⟩ := List.mem_map.mp member
  exact (Bool.and_eq_true_iff.mp (fixed part listed)).2

/-- A concatenation that is arranged matches as its parts do one after the other. -/
theorem Context.realizes_of_arrange?
    {parts : List PlannedPart}
    {plan : Plan Regex}
    (sound : ∀ part ∈ parts, part.IsSound line true)
    (arranged : (plain resumable).arrange? parts = some plan) :
    plan.Realizes line resumable ((Regex.seq (parts.map Prod.fst)).Matches line) := by
  simp only [arrange?, Option.bind_eq_bind, Option.bind_eq_some_iff, Option.pure_def,
    Option.some.injEq] at arranged
  obtain ⟨middlePlans, middlePlanned, frontPlans, frontSettled, backPlans,
      backSettled, rfl⟩ :=
    arranged
  -- the parts are cut as the arrangement cuts them: those in front that are settled,
  -- those that are searched, and those at the end that are settled again
  set front := parts.takeWhile (·.isFixed)
  set rest := parts.drop front.length
  set back := (rest.reverse.takeWhile fun part =>
    if (plain resumable).resumable then part.isFixed else !part.1.isHard).reverse
  set middle := rest.take (rest.length - back.length)
  have whole : front ++ (middle ++ back) = parts := by
    have suffix : back <:+ rest := by
      rw [← List.reverse_prefix, List.reverse_reverse]
      exact List.takeWhile_prefix _
    rw [take_append_of_suffix suffix]
    exact List.prefix_iff_eq_append.mp (List.takeWhile_prefix _)
  have frontRealizes : (Plan.seq frontPlans).Realizes line true
      ((Regex.seq (front.map Prod.fst)).Matches line) := by
    refine realizes_of_settleAll? frontSettled
      (.inl (isSome_width?_of_isFixed fun part member => ?_))
    exact List.mem_takeWhile_imp (p := PlannedPart.isFixed) member
  have middleRealizes : (Plan.seq middlePlans).Realizes line true
      ((Regex.seq (middle.map Prod.fst)).Matches line) := by
    refine Plan.seq_realizes
      (forall₂_realizes (fun part member => sound part ?_) middlePlanned)
    rw [← whole]
    simp [member]
  have backRealizes : (Plan.seq backPlans).Realizes line resumable
      ((Regex.seq (back.map Prod.fst)).Matches line) := by
    refine realizes_of_settleAll? backSettled ?_
    cases resumable with
    | true =>
        refine .inl (isSome_width?_of_isFixed fun part member => ?_)
        exact List.mem_takeWhile_imp (p := PlannedPart.isFixed)
          (List.mem_reverse.mp member)
    | false => exact .inr rfl
  rw [← whole, List.map_append, List.map_append, List.append_assoc]
  refine (Plan.seq_append_realizes frontRealizes
    (Plan.seq_append_realizes middleRealizes backRealizes)).congr fun start stop => ?_
  simp only [Regex.matches_seq_append]

/-! ## Alternatives -/

theorem realizes_of_chooseAmong?
    {branches : List PlannedPart}
    {plan : Plan Regex}
    (sound : ∀ branch ∈ branches, branch.IsSound line resumable)
    (nonempty : branches ≠ [])
    (chosen : chooseAmong? branches = some plan) :
    plan.Realizes line resumable
      ((Regex.oneOf (branches.map Prod.fst)).Matches line) := by
  obtain ⟨plans, planned, rfl⟩ := Option.map_eq_some_iff.mp chosen
  exact Plan.oneOf_realizes (forall₂_realizes sound planned) (by simpa using nonempty)

/-! ## Lookbehind -/

/-- The one origin of a match of one width. -/
theorem Regex.exists_origin_iff
    {regex : Regex}
    {width position : Nat}
    (hasWidth : regex.width? = some width) :
    (∃ origin, origin ≤ position ∧ regex.Matches line origin position) ↔
      width ≤ position ∧ ∃ stop, regex.Matches line (position - width) stop := by
  constructor
  · rintro ⟨origin, -, isMatch⟩
    have reached := isMatch.eq_add_width hasWidth
    refine ⟨by omega, position, ?_⟩
    rwa [reached, Nat.add_sub_cancel, ← reached]
  · rintro ⟨room, stop, isMatch⟩
    have reached := isMatch.eq_add_width hasWidth
    rw [Nat.sub_add_cancel room] at reached
    exact ⟨position - width, Nat.sub_le _ _, reached ▸ isMatch⟩

theorem realizes_of_lookBehind?
    {negated : Bool}
    {branch : PlannedPart}
    {plan : Plan Regex}
    (sound : branch.IsSound line false)
    (planned : lookBehind? negated branch = some plan) :
    plan.Realizes line resumable
      ((Regex.look .behind negated branch.1).Matches line) := by
  simp only [lookBehind?] at planned
  split at planned
  · rename_i width inner hasWidth innerPlanned
    cases planned
    refine (Plan.look_realizes (sound inner innerPlanned)).congr fun start stop => ?_
    rw [Plan.LooksBack, ← Regex.exists_origin_iff hasWidth]
    rfl
  · cases planned

/-- One alternative after the other does not end here if their alternation does not. -/
theorem Regex.matches_seq_notBehind_iff
    {branches : List Regex}
    (nonempty : branches ≠ [])
    {start stop : Nat} :
    (seq (branches.map (look .behind true))).Matches line start stop ↔
      (look .behind true (oneOf branches)).Matches line start stop := by
  have absent : (seq (branches.map (look .behind true))).Matches line start stop ↔
      start = stop ∧ ∀ branch ∈ branches,
        ¬∃ origin, origin ≤ start ∧ branch.Matches line origin start := by
    clear nonempty
    induction branches with
    | nil => simp [seq, Matches]
    | cons first rest inductionHypothesis =>
        rw [List.map_cons, matches_seq_cons, List.forall_mem_cons]
        constructor
        · rintro ⟨_, ⟨rfl, absent⟩, later⟩
          obtain ⟨same, others⟩ := inductionHypothesis.mp later
          exact ⟨same, by simpa using absent, others⟩
        · rintro ⟨same, absent, others⟩
          exact ⟨start, ⟨rfl, by simpa using absent⟩,
            inductionHypothesis.mpr ⟨same, others⟩⟩
  rw [absent]
  simp only [Matches, matches_oneOf_iff nonempty]
  grind

/-- One of some alternatives ends here if their alternation does. -/
theorem Regex.matches_oneOf_behind_iff
    {branches : List Regex}
    (nonempty : branches ≠ [])
    {start stop : Nat} :
    (oneOf (branches.map (look .behind false))).Matches line start stop ↔
      (look .behind false (oneOf branches)).Matches line start stop := by
  rw [matches_oneOf_iff (by simpa using nonempty)]
  simp only [Matches, matches_oneOf_iff nonempty, iff_true]
  constructor
  · rintro ⟨_, member, isMatch⟩
    obtain ⟨branch, listed, rfl⟩ := List.mem_map.mp member
    obtain ⟨same, behind⟩ := isMatch
    obtain ⟨origin, before, isMatch⟩ := behind.mpr rfl
    exact ⟨same, origin, before, branch, listed, isMatch⟩
  · rintro ⟨same, origin, before, branch, listed, isMatch⟩
    refine ⟨_, List.mem_map_of_mem listed, same, ?_⟩
    exact iff_of_true ⟨origin, before, isMatch⟩ rfl

/-- Looking behind for an alternation is looking for its alternatives: for all of them
in turn if they must not be there, and otherwise for one of them. -/
theorem realizes_of_lookBehindAny?
    {negated : Bool}
    {branches : List PlannedPart}
    {plan : Plan Regex}
    (sound : ∀ branch ∈ branches, branch.IsSound line false)
    (nonempty : branches ≠ [])
    (planned : lookBehindAny? negated branches = some plan) :
    plan.Realizes line resumable
      ((Regex.look .behind negated (Regex.oneOf (branches.map Prod.fst))).Matches
        line) := by
  obtain ⟨plans, each, rfl⟩ := Option.map_eq_some_iff.mp planned
  have named : branches.map Prod.fst ≠ [] := by simpa using nonempty
  have realize : ∀ later, List.Forall₂
      (fun branch plan => plan.Realizes line later (branch.Matches line))
      ((branches.map Prod.fst).map (Regex.look .behind negated)) plans := by
    intro later
    rw [List.map_map, List.forall₂_map_left_iff]
    exact ((List.forall₂_and_left _ _).mpr ⟨sound, forall₂_of_mapM_eq_some each⟩).imp
      fun _ _ both => realizes_of_lookBehind? both.1 both.2
  cases negated with
  | true =>
      refine (Plan.seq_realizes (realize true)).of_resumable.congr fun start stop => ?_
      exact Regex.matches_seq_notBehind_iff named
  | false =>
      refine (Plan.oneOf_realizes (realize resumable) (by simpa using nonempty)).congr
        fun start stop => ?_
      exact Regex.matches_oneOf_behind_iff named

/-! ## Outlines -/

/-- Every plan of an outline realizes what it is made for. -/
structure Outline.IsSound
    (line : Line)
    (resumable : Bool)
    (regex : Regex)
    (outline : Outline) : Prop where
  plan : PlannedPart.IsSound line resumable (regex, outline.plan)
  /-- The parts are planned so that the search may come back to them. -/
  parts : resumable = true → ∀ part ∈ outline.parts, part.IsSound line true
  branches : ∀ branch ∈ outline.branches, branch.IsSound line resumable

theorem Outline.single_isSound
    {regex : Regex}
    {plan : Option (Plan Regex)}
    (sound : PlannedPart.IsSound line resumable (regex, plan)) :
    (Outline.single regex plan).IsSound line resumable regex where
  plan := sound
  parts := by
    rintro rfl part member
    rwa [List.mem_singleton.mp member]
  branches := by
    intro branch member
    rwa [List.mem_singleton.mp member]

namespace Regex

theorem seq_cons
    {first : Regex}
    {rest : List Regex}
    (nonempty : rest ≠ []) :
    seq (first :: rest) = .cat first (seq rest) := by
  cases rest with
  | nil => exact absurd rfl nonempty
  | cons second rest => rfl

theorem oneOf_cons
    {first : Regex}
    {rest : List Regex}
    (nonempty : rest ≠ []) :
    oneOf (first :: rest) = .alt first (oneOf rest) := by
  cases rest with
  | nil => exact absurd rfl nonempty
  | cons second rest => rfl

/-- The parts of an outline put the expression together again. -/
theorem seq_outline_parts (context : Context) (regex : Regex) :
    (regex.outline context).parts ≠ [] ∧
      seq ((regex.outline context).parts.map Prod.fst) = regex := by
  induction regex generalizing context with
  | cat first second _ secondHypothesis =>
      obtain ⟨nonempty, again⟩ := secondHypothesis { context with resumable := true }
      refine ⟨List.cons_ne_nil _ _, ?_⟩
      rw [outline, List.map_cons, seq_cons (by simpa using nonempty), again]
  | group index body _ => cases index <;> exact ⟨List.cons_ne_nil _ _, rfl⟩
  | _ => exact ⟨List.cons_ne_nil _ _, rfl⟩

/-- The alternatives of an outline put the expression together again. -/
theorem oneOf_outline_branches (context : Context) (regex : Regex) :
    (regex.outline context).branches ≠ [] ∧
      oneOf ((regex.outline context).branches.map Prod.fst) = regex := by
  induction regex generalizing context with
  | alt first second _ secondHypothesis =>
      obtain ⟨nonempty, again⟩ := secondHypothesis context
      refine ⟨List.cons_ne_nil _ _, ?_⟩
      rw [outline, List.map_cons, oneOf_cons (by simpa using nonempty), again]
  | group index body _ => cases index <;> exact ⟨List.cons_ne_nil _ _, rfl⟩
  | _ => exact ⟨List.cons_ne_nil _ _, rfl⟩

/-- The outline of a direct expression is sound. -/
theorem outline_isSound
    {regex : Regex}
    (direct : regex.isDirect = true)
    (resumable : Bool) :
    (regex.outline (.plain resumable)).IsSound line resumable regex := by
  -- for both values of `resumable`: a part of a concatenation can be resumed even where
  -- the whole cannot, and the body of a lookaround cannot even where the whole can
  induction regex generalizing resumable with
  | empty =>
      refine Outline.single_isSound (Context.finish?_isSound ?_)
      rintro _ ⟨⟩
      exact Plan.pass_realizes
  | set chars =>
      refine Outline.single_isSound ?_
      rintro _ ⟨⟩
      exact Plan.set_realizes chars
  | assertion condition =>
      refine Outline.single_isSound (Context.finish?_isSound ?_)
      rintro _ ⟨⟩
      exact Plan.assertion_realizes condition
  | cat first second firstHypothesis secondHypothesis =>
      obtain ⟨firstDirect, secondDirect⟩ := Bool.and_eq_true_iff.mp direct
      have parts : ∀ part ∈ ((cat first second).outline (.plain resumable)).parts,
          part.IsSound line true :=
        List.forall_mem_cons.mpr ⟨(firstHypothesis firstDirect true).plan,
          (secondHypothesis secondDirect true).parts rfl⟩
      have plan : PlannedPart.IsSound line resumable
          (cat first second, ((cat first second).outline (.plain resumable)).plan) := by
        refine Context.finish?_isSound fun plan arranged => ?_
        have realizes := Context.realizes_of_arrange? parts arranged
        rwa [(seq_outline_parts _ _).2] at realizes
      exact ⟨plan, fun _ => parts, by simpa [outline] using plan⟩
  | alt first second firstHypothesis secondHypothesis =>
      obtain ⟨firstDirect, secondDirect⟩ := Bool.and_eq_true_iff.mp direct
      have branches : ∀ branch ∈ ((alt first second).outline (.plain resumable)).branches,
          branch.IsSound line resumable :=
        List.forall_mem_cons.mpr ⟨(firstHypothesis firstDirect resumable).plan,
          (secondHypothesis secondDirect resumable).branches⟩
      have plan : PlannedPart.IsSound line resumable
          (alt first second, ((alt first second).outline (.plain resumable)).plan) := by
        refine Context.finish?_isSound fun plan chosen => ?_
        have realizes := realizes_of_chooseAmong? branches (List.cons_ne_nil _ _) chosen
        rwa [(oneOf_outline_branches _ _).2] at realizes
      refine ⟨plan, ?_, branches⟩
      rintro rfl part member
      rwa [List.mem_singleton.mp member]
  | iterate body low high greedy inductionHypothesis =>
      refine Outline.single_isSound (Context.finish?_isSound fun plan planned => ?_)
      obtain ⟨inner, innerPlanned, rfl⟩ := Option.map_eq_some_iff.mp planned
      by_cases optional : low = 0 ∧ high = some 1
      · obtain ⟨rfl, rfl⟩ := optional
        exact Plan.optional_realizes Matches.le
          ((inductionHypothesis direct resumable).plan inner innerPlanned)
      · rw [if_neg (by simpa using optional)] at innerPlanned
        exact Plan.iterate_realizes Matches.le
          ((inductionHypothesis direct true).plan inner innerPlanned)
  | group index body inductionHypothesis =>
      have sound := (inductionHypothesis direct resumable).plan
      cases index with
      | none => exact Outline.single_isSound sound
      | some index =>
          refine Outline.single_isSound (Context.finish?_isSound fun plan planned => ?_)
          obtain ⟨inner, innerPlanned, rfl⟩ := Option.map_eq_some_iff.mp planned
          exact sound inner innerPlanned
  | look side negated body inductionHypothesis =>
      have sound := inductionHypothesis direct false
      refine Outline.single_isSound fun plan planned => ?_
      cases side with
      | ahead =>
          obtain ⟨inner, innerPlanned, rfl⟩ := Option.map_eq_some_iff.mp planned
          refine (Plan.look_realizes (sound.plan inner innerPlanned)).congr
            fun start stop => ?_
          simp [Plan.LooksBack, Matches]
      | behind =>
          simp only at planned
          split at planned
          · exact realizes_of_lookBehind? sound.plan planned
          · have realizes : plan.Realizes line resumable _ := realizes_of_lookBehindAny?
              sound.branches (oneOf_outline_branches _ _).1 planned
            rwa [(oneOf_outline_branches _ _).2] at realizes
  | backref index => cases direct
  | once body _ => cases direct

end Regex
end Pattern
end ScriptAudit
