import Mathlib.Data.List.TakeWhile
import ScriptAudit.Proofs.FileTree.Locking

/-!
# The order of a walk

The names that lead to the entries of a walk increase strictly, and the entries below a
directory stand right behind it, with nothing else between them. A walk depends on which
nodes a tree holds, but not on the order in which they were created.
-/

namespace ScriptAudit

open Text (Octets)

namespace FileTree

variable {tree other : FileTree} {start path : Path}

/-! ## What stands below a directory -/

/-- In sorted entries that all stand behind a directory, nothing below it follows the
first entry that is not below it. -/
theorem not_isPrefix_of_mem_dropWhile
    {names : List Octets}
    {entries : List (List Octets × Node)}
    (sorted : entries.Pairwise fun first second => first.1 < second.1)
    (later : ∀ entry ∈ entries, names < entry.1) :
    ∀ entry ∈ entries.dropWhile (fun entry => decide (names <+: entry.1)),
      ¬ names <+: entry.1 := by
  induction entries with
  | nil => simp
  | cons first entries inductionHypothesis =>
      obtain ⟨inOrder, restSorted⟩ := List.pairwise_cons.mp sorted
      rw [List.dropWhile_cons]
      by_cases isPrefix : names <+: first.1
      · rw [if_pos (by simpa using isPrefix)]
        exact inductionHypothesis restSorted fun entry member =>
          later entry (List.mem_cons_of_mem first member)
      · rw [if_neg (by simpa using isPrefix)]
        intro entry member
        rcases List.mem_cons.mp member with rfl | behind
        · exact isPrefix
        · rintro ⟨more, extended⟩
          have less :=
            append_lt_of_not_isPrefix (later first List.mem_cons_self) isPrefix more
          rw [extended] at less
          exact List.lt_asymm less (inOrder entry behind)

/-- What is walked to below an entry follows right behind it. -/
theorem Walked.exists_block
    {names : List Octets}
    {node : Node}
    (walked : tree.Walked start names node) :
    ∃ before inside behind,
      tree.walkedEntries start = before ++ (names, node) :: inside ++ behind ∧
      (∀ entry ∈ inside, names <+: entry.1) ∧
      ∀ entry ∈ before ++ behind, ¬ names <+: entry.1 := by
  obtain ⟨before, rest, split⟩ := List.append_of_mem (mem_walkedEntries_iff.mpr walked)
  have sorted := tree.walkedEntries_pairwise start
  rw [split, List.pairwise_append, List.pairwise_cons] at sorted
  obtain ⟨_, ⟨later, restSorted⟩, earlier⟩ := sorted
  refine ⟨before, rest.takeWhile fun entry => decide (names <+: entry.1),
    rest.dropWhile fun entry => decide (names <+: entry.1), ?_, ?_, ?_⟩
  · rw [split, List.append_assoc, List.cons_append, List.takeWhile_append_dropWhile]
  · intro entry member
    simpa using List.mem_takeWhile_imp member
  · intro entry member
    rcases List.mem_append.mp member with isBefore | isBehind
    · intro isPrefix
      exact le_of_isPrefix isPrefix (earlier entry isBefore _ List.mem_cons_self)
    · exact not_isPrefix_of_mem_dropWhile restSorted later entry isBehind

/-! ## Trees that hold the same nodes -/

/-- Two trees hold the same nodes and work in the same directory. -/
structure SameNodes (tree other : FileTree) : Prop where
  perm : other.nodes.Perm tree.nodes
  working_eq : other.working = tree.working

namespace SameNodes

theorem get?_eq (same : tree.SameNodes other) (location : Location) :
    other.get? location = tree.get? location := by
  apply Option.ext
  intro node
  rw [get?_eq_some_iff, get?_eq_some_iff, same.perm.mem_iff]

theorem locate_eq
    (same : tree.SameNodes other)
    (ending : Ending)
    (links : Nat)
    (node : Node)
    (names : List Octets) :
    other.locate ending links node names = tree.locate ending links node names := by
  fun_induction locate tree ending links node names with
  | case1 => rw [locate]
  | case12 | case13 =>
      rw [locate]
      simp only [same.get?_eq]
      grind
  | _ => rw [locate]; simp_all [same.get?_eq]

/-- A path leads to the same node, or fails in the same way. -/
theorem status_eq (same : tree.SameNodes other) (path : Path) :
    other.status path = tree.status path := by
  have sameOrigin : other.origin? path = tree.origin? path := by
    simp only [origin?, same.working_eq, same.get?_eq]
  simp only [status, nodeAt, place, follow, sameOrigin, same.locate_eq]

theorem below_eq (same : tree.SameNodes other) (base : Location) :
    other.below base = tree.below base := by
  refine (other.below_pairwise base).eq_of_mem_iff
    (tree.below_pairwise base) fun node => ?_
  simp only [mem_below_iff, IsOpenAlong, same.perm.mem_iff, same.get?_eq]

/-- A walk makes the same visits in the same order. -/
theorem walk_eq (same : tree.SameNodes other) (start : Path) :
    other.walk start = tree.walk start := by
  cases status : tree.status start with
  | error error => simp only [FileTree.walk_eq, same.status_eq, status]
  | ok base =>
      rw [walk_of_status_ok status,
        walk_of_status_ok ((same.status_eq start).trans status), walkedNodes,
        walkedNodes, same.below_eq]

end SameNodes

end FileTree
end ScriptAudit
