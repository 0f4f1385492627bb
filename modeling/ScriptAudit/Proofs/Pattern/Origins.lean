import Mathlib.Data.List.TakeDrop
import Mathlib.Data.List.TakeWhile
import ScriptAudit.Pattern.Origins
import ScriptAudit.Proofs.Pattern.Meaning

/-!
# The linear search is complete

Going back from a set of positions, the linear engine finds exactly the positions from
which an expression reaches one of them. For the repetitions this is a search along
chains of matches, either position by position or level by level.
-/

namespace ScriptAudit
namespace Pattern

/-! ## Sets of positions -/

/-- Positions of a line of a given size, the highest first. -/
structure IsPositionSet (size : Nat) (positions : List Nat) : Prop where
  descending : positions.Pairwise (· > ·)
  bounded : ∀ position ∈ positions, position ≤ size

section Sets

variable {size : Nat} {left right : List Nat}

theorem IsPositionSet.of_sublist
    {positions some : List Nat}
    (isSet : IsPositionSet size positions)
    (sublist : some.Sublist positions) :
    IsPositionSet size some :=
  ⟨isSet.descending.sublist sublist, fun position member =>
    isSet.bounded position (sublist.mem member)⟩

theorem isPositionSet_singleton
    {position : Nat}
    (within : position ≤ size) :
    IsPositionSet size [position] :=
  ⟨List.pairwise_singleton _ _, by simpa using within⟩

theorem isPositionSet_positions (line : Line) :
    IsPositionSet line.size (positions line) := by
  refine ⟨?_, fun position member => ?_⟩
  · simpa [positions, List.pairwise_reverse] using List.pairwise_lt_range
  · simp only [positions, List.mem_reverse, List.mem_range] at member
    omega

theorem mem_positions_iff
    {line : Line}
    {position : Nat} :
    position ∈ positions line ↔ position ≤ line.size := by
  simp only [positions, List.mem_reverse, List.mem_range]
  omega

theorem mergeOnto_descending
    (merged left right : List Nat)
    (behindLeft : (merged.reverse ++ left).Pairwise (· > ·))
    (behindRight : (merged.reverse ++ right).Pairwise (· > ·)) :
    (mergeOnto merged left right).Pairwise (· > ·) := by
  fun_induction mergeOnto merged left right with
  | case1 merged right => simpa [List.reverseAux_eq] using behindRight
  | case2 merged left => simpa [List.reverseAux_eq] using behindLeft
  | case3 merged first left second right smaller inductionHypothesis =>
      refine inductionHypothesis (by simpa using behindLeft) ?_
      simp only [List.pairwise_append, List.pairwise_cons, List.reverse_cons] at *
      grind
  | case4 merged first left second right smaller greater inductionHypothesis =>
      refine inductionHypothesis ?_ (by simpa using behindRight)
      simp only [List.pairwise_append, List.pairwise_cons, List.reverse_cons] at *
      grind
  | case5 merged first left second right smaller greater inductionHypothesis =>
      refine inductionHypothesis (by simpa using behindLeft) ?_
      obtain rfl : first = second := by omega
      simpa using behindRight

theorem IsPositionSet.union
    (isLeft : IsPositionSet size left)
    (isRight : IsPositionSet size right) :
    IsPositionSet size (union left right) := by
  refine ⟨mergeOnto_descending [] left right isLeft.descending isRight.descending, ?_⟩
  intro position member
  rcases (mem_union left right position).mp member with inLeft | inRight
  · exact isLeft.bounded position inLeft
  · exact isRight.bounded position inRight

/-- Positions above a limit in front of positions below it. -/
theorem pairwise_append_of_limit
    {front back : List Nat}
    {limit : Nat}
    (frontDescending : front.Pairwise (· > ·))
    (backDescending : back.Pairwise (· > ·))
    (above : ∀ position ∈ front, limit ≤ position)
    (below : ∀ position ∈ back, position < limit) :
    (front ++ back).Pairwise (· > ·) :=
  List.pairwise_append.mpr ⟨frontDescending, backDescending,
    fun high inFront low inBack =>
    Nat.lt_of_lt_of_le (below low inBack) (above high inFront)⟩

/-- What is left of descending positions behind those above a limit is not above it. -/
theorem le_of_mem_dropWhile
    {positions : List Nat}
    {limit position : Nat}
    (descending : positions.Pairwise (· > ·))
    (member : position ∈ positions.dropWhile (limit < ·)) :
    position ≤ limit := by
  induction positions with
  | nil => cases member
  | cons first rest inductionHypothesis =>
      by_cases above : limit < first
      · rw [List.dropWhile_cons_of_pos (by simpa using above)] at member
        exact inductionHypothesis descending.of_cons member
      · rw [List.dropWhile_cons_of_neg (by simpa using above)] at member
        rcases List.mem_cons.mp member with rfl | later
        · exact Nat.le_of_not_lt above
        · have := List.rel_of_pairwise_cons descending later
          omega

theorem lackingOnto_eq
    (kept left right : List Nat)
    (leftDescending : left.Pairwise (· > ·))
    (rightDescending : right.Pairwise (· > ·)) :
    lackingOnto kept left right = kept.reverse ++ left.filter (· ∉ right) := by
  fun_induction lackingOnto kept left right with
  | case1 kept right => simp
  | case2 kept left => simp [List.reverseAux_eq]
  | case3 kept first left second right smaller inductionHypothesis =>
      have higher : first ∉ second :: right := by
        intro member
        rcases List.mem_cons.mp member with same | later
        · omega
        · have := List.rel_of_pairwise_cons rightDescending later
          omega
      rw [inductionHypothesis leftDescending.of_cons rightDescending,
        List.filter_cons_of_pos (by simpa using higher)]
      simp
  | case4 kept first left second right smaller greater inductionHypothesis =>
      rw [inductionHypothesis leftDescending rightDescending.of_cons]
      congr 1
      refine List.filter_congr fun position member => ?_
      have lower : position ≠ second := by
        rcases List.mem_cons.mp member with same | later
        · omega
        · have := List.rel_of_pairwise_cons leftDescending later
          omega
      simp [lower]
  | case5 kept first left second right smaller greater inductionHypothesis =>
      obtain rfl : first = second := by omega
      rw [inductionHypothesis leftDescending.of_cons rightDescending.of_cons,
        List.filter_cons_of_neg (by simp)]
      congr 1
      refine List.filter_congr fun position member => ?_
      have lower : position ≠ first := by
        have := List.rel_of_pairwise_cons leftDescending member
        omega
      simp [lower]

theorem lacking_eq_filter
    (isLeft : IsPositionSet size left)
    (isRight : IsPositionSet size right) :
    lacking left right = left.filter (· ∉ right) :=
  lackingOnto_eq [] left right isLeft.descending isRight.descending

end Sets

/-! ## Steps back -/

/-- A set that lacks no origin of its positions is not left by chains. -/
theorem Chain.mem_of_closed
    {relation : Nat → Nat → Prop}
    {visited : List Nat}
    (closed : ∀ stop ∈ visited, ∀ start, relation start stop → start ∈ visited)
    {count start stop : Nat}
    (chain : Chain relation count start stop)
    (member : stop ∈ visited) :
    start ∈ visited := by
  induction count generalizing start with
  | zero => exact chain ▸ member
  | succ count inductionHypothesis =>
      obtain ⟨middle, here, later⟩ := chain
      exact closed middle (inductionHypothesis later) start here

/-- A function on sets of positions that gives the positions from which a relation leads
into a set. The relation never leads backward. -/
structure Retraces
    (size : Nat)
    (origins : List Nat → List Nat)
    (relation : Nat → Nat → Prop) : Prop where
  forward : ∀ {start stop}, relation start stop → start ≤ stop
  isSet : ∀ {ends}, IsPositionSet size ends → IsPositionSet size (origins ends)
  mem_iff : ∀ {ends}, IsPositionSet size ends →
    ∀ start, start ∈ origins ends ↔ ∃ stop ∈ ends, relation start stop

namespace Retraces

variable {size : Nat} {origins : List Nat → List Nat} {relation : Nat → Nat → Prop}
variable {ends : List Nat}

/-- Applying a function several times follows chains of as many steps. -/
theorem times
    (retraces : Retraces size origins relation)
    (count : Nat)
    (isEnds : IsPositionSet size ends) :
    IsPositionSet size (times origins count ends) ∧
      ∀ start, start ∈ Pattern.times origins count ends ↔
        ∃ stop ∈ ends, Chain relation count start stop := by
  induction count generalizing ends with
  | zero => exact ⟨isEnds, fun start => by simp [Pattern.times]⟩
  | succ count inductionHypothesis =>
      cases ends with
      | nil => exact ⟨isEnds, fun start => by simp [Pattern.times]⟩
      | cons first ends =>
          obtain ⟨isSet, mem_iff⟩ := inductionHypothesis (retraces.isSet isEnds)
          refine ⟨isSet, fun start => ?_⟩
          rw [Pattern.times, mem_iff]
          simp only [retraces.mem_iff isEnds, chain_succ_last]
          · constructor
            · rintro ⟨middle, ⟨stop, member, late⟩, early⟩
              exact ⟨stop, member, middle, early, late⟩
            · rintro ⟨stop, member, middle, early, late⟩
              exact ⟨middle, ⟨stop, member, late⟩, early⟩
          · simp

/-- Going back position by position follows chains of any number of steps. The highest
pending position is never come back to, so the positions below `fuel` are visited once
each. -/
theorem sweep
    (retraces : Retraces size origins relation)
    (fuel : Nat)
    (pending visited : List Nat)
    (isPending : IsPositionSet size pending)
    (descending : (visited.reverse ++ pending).Pairwise (· > ·))
    (enough : ∀ position ∈ pending, position < fuel) :
    (sweep (fun position => origins [position]) fuel pending visited).Pairwise (· > ·) ∧
      ∀ start,
        start ∈ Pattern.sweep (fun position => origins [position]) fuel pending visited ↔
          start ∈ visited ∨ ∃ stop ∈ pending, ∃ count,
          Chain relation count start stop := by
  induction fuel generalizing pending visited with
  | zero =>
      obtain rfl : pending = [] :=
        List.eq_nil_iff_forall_not_mem.mpr fun position member =>
          Nat.not_lt_zero _ (enough position member)
      simpa [Pattern.sweep] using descending
  | succ fuel inductionHypothesis =>
      cases pending with
      | nil => simpa [Pattern.sweep] using descending
      | cons position rest =>
          have within : position ≤ size := isPending.bounded position List.mem_cons_self
          have isSingle := isPositionSet_singleton within
          have isFound : IsPositionSet size
              ((origins [position]).filter (· < position)) :=
            (retraces.isSet isSingle).of_sublist List.filter_sublist
          have isRest : IsPositionSet size rest :=
            isPending.of_sublist (List.sublist_cons_self position rest)
          have isNext := isFound.union isRest
          have lower : ∀ next ∈ union ((origins [position]).filter (· < position)) rest,
              next < position := by
            intro next member
            rcases (mem_union _ _ next).mp member with found | later
            · simpa using (List.mem_filter.mp found).2
            · exact List.rel_of_pairwise_cons isPending.descending later
          have nextDescending : ((position :: visited).reverse ++
              union ((origins [position]).filter (· < position))
                rest).Pairwise (· > ·) := by
            have whole := List.pairwise_append.mp descending
            refine pairwise_append_of_limit ?_ isNext.descending ?_ lower
            · rw [List.reverse_cons]
              exact descending.sublist (by simp)
            · intro high member
              rcases List.mem_cons.mp (List.mem_reverse.mp member) with rfl | earlier
              · exact Nat.le_refl _
              · exact Nat.le_of_lt
                  (whole.2.2 high (List.mem_reverse.mpr earlier)
                    position List.mem_cons_self)
          obtain ⟨isSwept, mem_iff⟩ := inductionHypothesis _ _ isNext nextDescending
            fun next member => by
              have := lower next member
              have := enough position List.mem_cons_self
              omega
          refine ⟨isSwept, fun start => ?_⟩
          rw [Pattern.sweep, mem_iff]
          have found_iff : ∀ start, start ∈ origins [position] ↔
              relation start position := by
            simp [retraces.mem_iff isSingle]
          simp only [mem_union, List.mem_filter, found_iff,
            decide_eq_true_eq, List.mem_cons]
          constructor
          · rintro ((rfl | old) | ⟨stop, ⟨found, _⟩ | later, count, chain⟩)
            · exact .inr ⟨start, .inl rfl, 0, rfl⟩
            · exact .inl old
            · exact .inr ⟨position, .inl rfl, count + 1,
                chain_succ_last.mpr ⟨stop, chain, found⟩⟩
            · exact .inr ⟨stop, .inr later, count, chain⟩
          · rintro (old | ⟨stop, rfl | later, count, chain⟩)
            · exact .inl (.inr old)
            · rcases chain.eq_or_exists_last retraces.forward with
                rfl | ⟨middle, fewer, moved, early, here⟩
              · exact .inl (.inl rfl)
              · exact .inr ⟨middle, .inl ⟨here, moved⟩, fewer, early⟩
            · exact .inr ⟨stop, .inr later, count, chain⟩

end Retraces

/-! ## Level by level -/

/-- The situation of a search level by level. Of the visited positions only the pending
ones may have origins that are not visited yet, and no pending position is above those
that have been set aside. -/
structure IsLevel
    (size : Nat)
    (relation : Nat → Nat → Prop)
    (pending visited aside : List Nat) : Prop where
  isPending : IsPositionSet size pending
  isVisited : IsPositionSet size (aside.reverse ++ visited)
  above : ∀ high ∈ aside, ∀ position ∈ pending, position < high
  included : ∀ position ∈ pending, position ∈ visited
  closed : ∀ stop ∈ aside.reverse ++ visited, stop ∈ pending ∨
    ∀ start, relation start stop → start ∈ aside.reverse ++ visited

namespace IsLevel

variable {size : Nat} {origins : List Nat → List Nat} {relation : Nat → Nat → Prop}
variable {pending visited aside : List Nat}

theorem isOnlyVisited (level : IsLevel size relation pending visited aside) :
    IsPositionSet size visited :=
  level.isVisited.of_sublist (List.sublist_append_right _ _)

theorem mem_fresh_iff
    (level : IsLevel size relation pending visited aside)
    (retraces : Retraces size origins relation)
    {start : Nat} :
    start ∈ lacking (origins pending) visited ↔
      (∃ stop ∈ pending, relation start stop) ∧ start ∉ visited := by
  rw [lacking_eq_filter (retraces.isSet level.isPending) level.isOnlyVisited,
    List.mem_filter, retraces.mem_iff level.isPending, decide_eq_true_eq]

/-- An origin of a visited position is visited or fresh. -/
theorem mem_visited_or_fresh
    (level : IsLevel size relation pending visited aside)
    (retraces : Retraces size origins relation)
    {start stop : Nat}
    (member : stop ∈ aside.reverse ++ visited)
    (here : relation start stop) :
    start ∈ aside.reverse ++ visited ∨ start ∈ lacking (origins pending) visited := by
  rcases level.closed stop member with isPending | complete
  · by_cases old : start ∈ visited
    · exact .inl (List.mem_append_right _ old)
    · exact .inr ((level.mem_fresh_iff retraces).mpr ⟨⟨stop, isPending, here⟩, old⟩)
  · exact .inl (complete start here)

/-- What has been visited when the fresh positions are added. -/
theorem mem_advanced_iff (top : Nat) (fresh : List Nat) (start : Nat) :
    start ∈ (((visited.takeWhile (top < ·)).reverseAux aside).reverse ++
        union (visited.dropWhile (top < ·)) fresh) ↔
      start ∈ aside.reverse ++ visited ∨ start ∈ fresh := by
  have split : start ∈ visited ↔
      start ∈ visited.takeWhile (top < ·) ∨ start ∈ visited.dropWhile (top < ·) := by
    rw [← List.mem_append, List.takeWhile_append_dropWhile]
  simp only [List.reverseAux_eq, List.reverse_append,
    List.reverse_reverse, List.mem_append, mem_union, split]
  tauto

/-- Adding the fresh positions leads to the next level. -/
theorem advance
    (level : IsLevel size relation pending visited aside)
    (retraces : Retraces size origins relation)
    {top : Nat}
    {rest : List Nat}
    (fresh : lacking (origins pending) visited = top :: rest) :
    IsLevel size relation (top :: rest)
      (union (visited.dropWhile (top < ·)) (top :: rest))
      ((visited.takeWhile (top < ·)).reverseAux aside) := by
  have isFresh : IsPositionSet size (top :: rest) := by
    rw [← fresh, lacking_eq_filter (retraces.isSet level.isPending) level.isOnlyVisited]
    exact (retraces.isSet level.isPending).of_sublist List.filter_sublist
  have freshLow : ∀ start ∈ top :: rest, start < top + 1 := by
    intro start member
    rcases List.mem_cons.mp member with rfl | later
    · exact Nat.lt_succ_self _
    · exact Nat.lt_succ_of_lt (List.rel_of_pairwise_cons isFresh.descending later)
  have asideHigh : ∀ high ∈ (visited.takeWhile (top < ·)).reverseAux aside,
      top + 1 ≤ high := by
    intro high member
    rw [List.reverseAux_eq, List.mem_append, List.mem_reverse] at member
    rcases member with taken | before
    · have isAbove := List.mem_takeWhile_imp taken
      rw [decide_eq_true_eq] at isAbove
      exact isAbove
    · obtain ⟨⟨stop, isPending, here⟩, -⟩ := (level.mem_fresh_iff retraces).mp
        (fresh ▸ List.mem_cons_self : top ∈ lacking (origins pending) visited)
      have := retraces.forward here
      have := level.above high before stop isPending
      omega
  have isDropped : IsPositionSet size (visited.dropWhile (top < ·)) :=
    level.isOnlyVisited.of_sublist (List.dropWhile_sublist _)
  have droppedLow : ∀ low ∈ visited.dropWhile (top < ·), low < top + 1 :=
      fun low dropped =>
    Nat.lt_succ_of_le (le_of_mem_dropWhile level.isOnlyVisited.descending dropped)
  refine ⟨isFresh, ⟨?_, ?_⟩, ?_, ?_, ?_⟩
  · refine pairwise_append_of_limit ?_ (isDropped.union isFresh).descending
      (fun high member => asideHigh high (List.mem_reverse.mp member))
        fun low member => ?_
    · rw [List.reverseAux_eq, List.reverse_append, List.reverse_reverse]
      exact level.isVisited.descending.sublist
        (List.Sublist.append (List.Sublist.refl _) (List.takeWhile_sublist _))
    · rcases (mem_union _ _ low).mp member with dropped | isFresh
      · exact droppedLow low dropped
      · exact freshLow low isFresh
  · intro start member
    rcases (mem_advanced_iff top (top :: rest) start).mp member with old | new
    · exact level.isVisited.bounded start old
    · exact isFresh.bounded start new
  · intro high member start isFresh
    exact Nat.lt_of_lt_of_le (freshLow start isFresh) (asideHigh high member)
  · intro start isFresh
    exact (mem_union _ _ start).mpr (.inr isFresh)
  · intro stop member
    rcases (mem_advanced_iff top (top :: rest) stop).mp member with old | new
    · right
      intro start here
      rw [mem_advanced_iff, ← fresh]
      exact level.mem_visited_or_fresh retraces old here
    · exact .inl new

end IsLevel

namespace Retraces

variable {size : Nat} {origins : List Nat → List Nat} {relation : Nat → Nat → Prop}
variable {ends : List Nat}

/-- Going back level by level follows chains of at most `fuel` steps. -/
theorem spread
    (retraces : Retraces size origins relation)
    (fuel : Nat)
    (pending visited aside : List Nat)
    (level : IsLevel size relation pending visited aside) :
    IsPositionSet size (spread origins fuel pending visited aside) ∧
      ∀ start, start ∈ Pattern.spread origins fuel pending visited aside ↔
        ∃ stop ∈ aside.reverse ++ visited, ∃ count ≤ fuel,
          Chain relation count start stop := by
  induction fuel generalizing pending visited aside with
  | zero =>
      rw [Pattern.spread, List.reverseAux_eq]
      exact ⟨level.isVisited, fun start => by simp⟩
  | succ fuel inductionHypothesis =>
      rw [Pattern.spread]
      split
      · rename_i noFresh
        rw [List.reverseAux_eq]
        refine ⟨level.isVisited,
          fun start => ⟨fun member => ⟨start, member, 0, by simp, rfl⟩, ?_⟩⟩
        rintro ⟨stop, member, count, _, chain⟩
        refine chain.mem_of_closed (fun stop member start here => ?_) member
        simpa [noFresh] using level.mem_visited_or_fresh retraces member here
      · rename_i top rest fresh
        rw [List.span_eq_takeWhile_dropWhile]
        obtain ⟨isSet, mem_iff⟩ :=
          inductionHypothesis _ _ _ (level.advance retraces fresh)
        refine ⟨isSet, fun start => ?_⟩
        rw [mem_iff]
        simp only [IsLevel.mem_advanced_iff]
        constructor
        · rintro ⟨stop, old | new, count, enough, chain⟩
          · exact ⟨stop, old, count, by omega, chain⟩
          · obtain ⟨⟨last, isPending, here⟩, -⟩ :=
              (level.mem_fresh_iff retraces).mp (fresh ▸ new)
            exact ⟨last, List.mem_append_right _ (level.included last isPending),
              count + 1, by omega, chain_succ_last.mpr ⟨stop, chain, here⟩⟩
        · rintro ⟨stop, old, count, enough, chain⟩
          cases count with
          | zero => exact ⟨stop, .inl old, 0, by simp, chain⟩
          | succ count =>
              obtain ⟨middle, early, here⟩ := chain_succ_last.mp chain
              have visited := level.mem_visited_or_fresh retraces old here
              rw [fresh] at visited
              exact ⟨middle, visited, count, by omega, early⟩

/-- Before the first step all positions are pending. -/
theorem isLevel_start (isEnds : IsPositionSet size ends) :
    IsLevel size relation ends ends [] where
  isPending := isEnds
  isVisited := isEnds
  above := by simp
  included := fun _ member => member
  closed := fun _ member => .inl member

/-- Going back through as many copies as a repetition may take in addition to those that
it needs. -/
theorem further
    (retraces : Retraces size origins relation)
    (unbounded : Bool)
    (high : Option Nat)
    (low : Nat)
    (isEnds : IsPositionSet size ends) :
    let found :=
      match high with
      | some bound => Pattern.spread origins (bound - low) ends ends []
      | none =>
          if unbounded then Pattern.spread origins (size + 1) ends ends []
          else Pattern.sweep (fun position => origins [position]) (size + 1) ends []
    IsPositionSet size found ∧
      ∀ start, start ∈ found ↔ ∃ stop ∈ ends, ∃ count,
        (∀ bound ∈ high, count ≤ bound - low) ∧ Chain relation count start stop := by
  cases high with
  | some bound =>
      obtain ⟨isSet, mem_iff⟩ :=
        retraces.spread (bound - low) ends ends [] (isLevel_start isEnds)
      exact ⟨isSet, by simpa using mem_iff⟩
  | none =>
      cases unbounded with
      | true =>
          obtain ⟨isSet, mem_iff⟩ :=
            retraces.spread (size + 1) ends ends [] (isLevel_start isEnds)
          refine ⟨isSet, fun start => ?_⟩
          simp only [if_true, mem_iff, List.reverse_nil, List.nil_append]
          constructor
          · rintro ⟨stop, member, count, -, chain⟩
            exact ⟨stop, member, count, by simp, chain⟩
          · rintro ⟨stop, member, count, -, chain⟩
            -- no more copies are needed than there are positions
            obtain ⟨fewer, short, rest⟩ := chain.exists_short retraces.forward
            have := isEnds.bounded stop member
            exact ⟨stop, member, fewer, by omega, rest⟩
      | false =>
          obtain ⟨descending, mem_iff⟩ := retraces.sweep (size + 1) ends [] isEnds
            isEnds.descending fun position member =>
              Nat.lt_succ_of_le (isEnds.bounded position member)
          simp only [Bool.false_eq_true, if_false, Option.not_mem_none, false_implies,
            implies_true, true_and]
          refine ⟨⟨descending, fun start member => ?_⟩, by simpa using mem_iff⟩
          rcases (mem_iff start).mp member with old | ⟨stop, isEnd, count, chain⟩
          · cases old
          · exact Nat.le_trans (chain.le retraces.forward) (isEnds.bounded stop isEnd)

end Retraces

/-! ## Expressions -/

namespace Regex

variable {line : Line}

theorem mem_origins_set_iff
    {chars : CharSet}
    {ends : List Nat}
    {start : Nat} :
    start ∈ (set chars).origins line ends ↔
      ∃ stop ∈ ends, (set chars).Matches line start stop := by
  simp only [origins, List.mem_filterMap, Matches]
  constructor
  · rintro ⟨stop, member, found⟩
    cases stop with
    | zero => cases found
    | succ previous =>
        simp only [Line.hasAt, Option.any_eq_true, Option.ite_none_right_eq_some,
          Option.some.injEq] at found
        obtain ⟨here, rfl⟩ := found
        exact ⟨_, member, rfl, here⟩
  · rintro ⟨stop, member, rfl, here⟩
    exact ⟨_, member, by simpa [Line.hasAt, Option.any_eq_true] using here⟩

theorem isPositionSet_origins_set
    {chars : CharSet}
    {ends : List Nat}
    (isEnds : IsPositionSet line.size ends) :
    IsPositionSet line.size ((set chars).origins line ends) := by
  refine ⟨isEnds.descending.filterMap _ ?_, fun start member => ?_⟩
  · intro stop other lower start found next alsoFound
    cases stop <;> cases other <;> simp_all
  · obtain ⟨stop, isEnd, isMatch⟩ := mem_origins_set_iff.mp member
    exact Nat.le_trans isMatch.le (isEnds.bounded stop isEnd)

/-- The origins of a repetition: first through the copies that it may take, then through
those that it needs. -/
theorem retraces_iterate
    {body : Regex}
    (retraces : Retraces line.size (body.origins line) (body.Matches line))
    (low : Nat)
    (high : Option Nat)
    (greedy : Bool) :
    Retraces line.size ((iterate body low high greedy).origins line)
      ((iterate body low high greedy).Matches line) := by
  have spec : ∀ {ends}, IsPositionSet line.size ends →
      IsPositionSet line.size ((iterate body low high greedy).origins line ends) ∧
      ∀ start, start ∈ (iterate body low high greedy).origins line ends ↔
        ∃ stop ∈ ends, ∃ middle,
          Chain (body.Matches line) (min low (high.getD low)) start middle ∧
          ∃ count, (∀ bound ∈ high, count ≤ bound - low) ∧
            Chain (body.Matches line) count middle stop := by
    intro ends isEnds
    obtain ⟨isFurther, mem_further⟩ :=
      retraces.further body.isUnbounded high low isEnds
    obtain ⟨isSet, mem_iff⟩ := retraces.times (min low (high.getD low)) isFurther
    refine ⟨isSet, fun start => (mem_iff start).trans ?_⟩
    simp only [mem_further]
    constructor
    · rintro ⟨middle, ⟨stop, isEnd, count, notMore, late⟩, early⟩
      exact ⟨stop, isEnd, middle, early, count, notMore, late⟩
    · rintro ⟨stop, isEnd, middle, early, count, notMore, late⟩
      exact ⟨middle, ⟨stop, isEnd, count, notMore, late⟩, early⟩
  refine ⟨Matches.le, fun isEnds => (spec isEnds).1, fun isEnds start => ?_⟩
  simp only [(spec isEnds).2, matches_iterate, repeats_iff]

/-- Looking ahead from a position of the line reaches no further than its end. -/
theorem mem_origins_positions_iff
    {body : Regex}
    (retraces : Retraces line.size (body.origins line) (body.Matches line))
    {start : Nat}
    (within : start ≤ line.size) :
    start ∈ body.origins line (positions line) ↔
      ∃ reached, body.Matches line start reached := by
  rw [retraces.mem_iff (isPositionSet_positions line)]
  constructor
  · rintro ⟨reached, -, isMatch⟩
    exact ⟨reached, isMatch⟩
  · rintro ⟨reached, isMatch⟩
    exact ⟨reached, mem_positions_iff.mpr (isMatch.le_size within), isMatch⟩

/-- The origins of a lookaround are the positions at which it holds. -/
theorem retraces_look
    {body : Regex}
    (retraces : Retraces line.size (body.origins line) (body.Matches line))
    (side : Side)
    (negated : Bool) :
    Retraces line.size ((look side negated body).origins line)
      ((look side negated body).Matches line) := by
  have isAhead := retraces.isSet (isPositionSet_positions line)
  have kept : ∀ {ends}, IsPositionSet line.size ends →
      ∃ keeps : Nat → Bool,
        (look side negated body).origins line ends = ends.filter keeps ∧
        ∀ position ∈ ends,
          (keeps position = true ↔
            (look side negated body).Matches line position position) := by
    intro ends isEnds
    cases side with
    | ahead =>
        have inner : ∀ position ∈ ends, position ∈ body.origins line (positions line) ↔
            ∃ reached, body.Matches line position reached := fun position member =>
          mem_origins_positions_iff retraces (isEnds.bounded position member)
        cases negated with
        | true =>
            refine ⟨_, lacking_eq_filter isEnds isAhead, fun position member => ?_⟩
            simp [Matches, inner position member]
        | false =>
            refine ⟨fun position => position ∈ body.origins line (positions line), ?_, ?_⟩
            · rw [origins, lacking_eq_filter isEnds isAhead,
                lacking_eq_filter isEnds (isEnds.of_sublist List.filter_sublist)]
              refine List.filter_congr fun position member => ?_
              simp [member]
            · intro position member
              simp [Matches, inner position member]
    | behind =>
        refine ⟨_, rfl, fun position member => ?_⟩
        have inner :=
          retraces.mem_iff (isPositionSet_singleton (isEnds.bounded position member))
        have found : (body.origins line [position]).isEmpty = false ↔
            ∃ origin ≤ position, body.Matches line origin position := by
          rw [List.isEmpty_eq_false_iff_exists_mem]
          simp only [inner, List.mem_singleton, exists_eq_left]
          exact exists_congr fun origin =>
            ⟨fun isMatch => ⟨isMatch.le, isMatch⟩, And.right⟩
        simp only [Matches, true_and, ← found, beq_iff_eq]
        cases negated <;> simp
  refine ⟨Matches.le, fun {ends} isEnds => ?_, fun {ends} isEnds start => ?_⟩
  · obtain ⟨keeps, filtered, -⟩ := kept isEnds
    rw [filtered]
    exact isEnds.of_sublist List.filter_sublist
  · obtain ⟨keeps, filtered, keeps_iff⟩ := kept isEnds
    rw [filtered, List.mem_filter]
    constructor
    · rintro ⟨isEnd, isKept⟩
      exact ⟨start, isEnd, (keeps_iff start isEnd).mp isKept⟩
    · rintro ⟨stop, isEnd, isMatch⟩
      obtain rfl : start = stop := by cases side <;> exact isMatch.1
      exact ⟨isEnd, (keeps_iff start isEnd).mpr isMatch⟩

/-- Looking back through an expression gives the positions from which it matches up to
one of a set. -/
theorem origins_retraces (regex : Regex) :
    Retraces line.size (regex.origins line) (regex.Matches line) := by
  induction regex with
  | empty => exact ⟨Matches.le, id, fun _ start => by simp [origins, Matches]⟩
  | set chars =>
      exact ⟨Matches.le, isPositionSet_origins_set, fun _ _ => mem_origins_set_iff⟩
  | assertion condition =>
      refine ⟨Matches.le, fun isEnds => isEnds.of_sublist List.filter_sublist, ?_⟩
      intro ends isEnds start
      simp only [origins, List.mem_filter, Matches]
      constructor
      · rintro ⟨isEnd, holds⟩
        exact ⟨start, isEnd, rfl, holds⟩
      · rintro ⟨_, isEnd, rfl, holds⟩
        exact ⟨isEnd, holds⟩
  | cat first second firstHypothesis secondHypothesis =>
      have composed : ∀ ends, (cat first second).origins line ends =
          first.origins line (second.origins line ends) := by
        intro ends
        rw [origins]
        split
        · rename_i nothing
          rw [nothing]
          refine (List.eq_nil_iff_forall_not_mem.mpr fun start member => ?_).symm
          obtain ⟨_, ⟨⟩, _⟩ := (firstHypothesis.mem_iff ⟨.nil, by simp⟩ start).mp member
        · rfl
      refine ⟨Matches.le, fun {ends} isEnds => ?_, fun {ends} isEnds start => ?_⟩
      · rw [composed]
        exact firstHypothesis.isSet (secondHypothesis.isSet isEnds)
      · rw [composed, firstHypothesis.mem_iff (secondHypothesis.isSet isEnds)]
        simp only [secondHypothesis.mem_iff isEnds, Matches]
        constructor
        · rintro ⟨middle, ⟨stop, isEnd, late⟩, early⟩
          exact ⟨stop, isEnd, middle, early, late⟩
        · rintro ⟨stop, isEnd, middle, early, late⟩
          exact ⟨middle, ⟨stop, isEnd, late⟩, early⟩
  | alt first second firstHypothesis secondHypothesis =>
      refine ⟨Matches.le, fun isEnds => ?_, fun isEnds start => ?_⟩
      · exact (firstHypothesis.isSet isEnds).union (secondHypothesis.isSet isEnds)
      · simp only [origins, mem_union, firstHypothesis.mem_iff isEnds,
          secondHypothesis.mem_iff isEnds, Matches, and_or_left, exists_or]
  | iterate body low high greedy inductionHypothesis =>
      exact retraces_iterate inductionHypothesis low high greedy
  | group index body inductionHypothesis =>
      exact ⟨Matches.le, inductionHypothesis.isSet, inductionHypothesis.mem_iff⟩
  | look side negated body inductionHypothesis =>
      exact retraces_look inductionHypothesis side negated
  | backref index =>
      refine ⟨Matches.le, fun _ => ⟨List.Pairwise.nil, by simp [origins]⟩, ?_⟩
      simp [origins, Matches]
  | once body inductionHypothesis =>
      refine ⟨Matches.le, fun _ => ⟨List.Pairwise.nil, by simp [origins]⟩, ?_⟩
      simp [origins, Matches]

theorem found_iff_occurs (regex : Regex) :
    regex.found line = true ↔ regex.Occurs line := by
  have isPositions := isPositionSet_positions line
  have retraces : Retraces line.size (regex.origins line) (regex.Matches line) :=
    regex.origins_retraces
  have mem_iff := retraces.mem_iff isPositions
  rw [found, Bool.not_eq_true', List.isEmpty_eq_false_iff_exists_mem]
  simp only [mem_iff, mem_positions_iff]
  constructor
  · rintro ⟨start, stop, within, isMatch⟩
    exact ⟨start, stop, isMatch.le, within, isMatch⟩
  · rintro ⟨start, stop, -, within, isMatch⟩
    exact ⟨start, stop, within, isMatch⟩

end Regex
end Pattern
end ScriptAudit
