import Mathlib.Data.List.Basic
import ScriptAudit.Text.Line

/-!
# Pieces of a text

A text is cut into the pieces between its marks. Cutting goes on in the same way on both
sides of a mark, so that a piece is known from what stands around it: the number of
marks before it says which piece it is.
-/

namespace ScriptAudit
namespace Text

theorem splitAt_cons
    (test : α → Bool)
    (item : α)
    (items : List α) :
    splitAt test (item :: items) =
      if test item then [] :: splitAt test items
      else
        match splitAt test items with
        | [] => [[item]]
        | piece :: rest => (item :: piece) :: rest := rfl

theorem splitAt_ne_nil (test : α → Bool) (items : List α) :
    splitAt test items ≠ [] := by
  cases items with
  | nil => simp
  | cons item items =>
      rw [splitAt_cons]
      split
      · simp
      · split <;> simp

/-- A text without a place to cut is one piece. -/
theorem splitAt_of_forall_not
    {test : α → Bool}
    {items : List α}
    (whole : ∀ item ∈ items, test item = false) :
    splitAt test items = [items] := by
  induction items with
  | nil => rfl
  | cons item items inductionHypothesis =>
      rw [splitAt_cons, inductionHypothesis fun other later =>
        whole other (List.mem_cons_of_mem item later)]
      simp [whole item List.mem_cons_self]

/-- A text is cut in the same way on both sides of a place where it is cut. -/
theorem splitAt_append_cons
    {test : α → Bool}
    {mark : α}
    (marks : test mark = true)
    (before after : List α) :
    splitAt test (before ++ mark :: after) =
      splitAt test before ++ splitAt test after := by
  induction before with
  | nil => simp [splitAt_cons, marks]
  | cons item before inductionHypothesis =>
      rw [List.cons_append, splitAt_cons, splitAt_cons, inductionHypothesis]
      by_cases cuts : test item = true
      · simp [cuts]
      · obtain ⟨piece, rest, pieces⟩ :=
          List.exists_cons_of_ne_nil (splitAt_ne_nil test before)
        simp [cuts, pieces]

/-- A piece of a text, with what stands before and behind it. It reaches from a mark or
the start to a mark or the end. -/
structure IsPiece (test : α → Bool) (items before piece behind : List α) : Prop where
  eq : items = before ++ piece ++ behind
  starts : before = [] ∨ ∃ front mark, before = front ++ [mark] ∧ test mark = true
  ends : behind = [] ∨ ∃ mark rest, behind = mark :: rest ∧ test mark = true
  whole : ∀ item ∈ piece, test item = false

/-- What holds of every text without marks, and is carried over a piece and the mark
behind it, holds of every text. -/
theorem piecewise_induction
    (test : α → Bool)
    {motive : List α → Prop}
    (whole : ∀ items, (∀ item ∈ items, test item = false) → motive items)
    (cut : ∀ piece mark rest, (∀ item ∈ piece, test item = false) → test mark = true →
      motive rest → motive (piece ++ mark :: rest))
    (items : List α) :
    motive items := by
  suffices later : ∀ piece, (∀ item ∈ piece, test item = false) →
      motive (piece ++ items) from
    later [] (by simp)
  induction items with
  | nil =>
      intro piece isWhole
      rw [List.append_nil]
      exact whole piece isWhole
  | cons item items inductionHypothesis =>
      intro piece isWhole
      cases marks : test item with
      | true =>
          exact cut piece item items isWhole marks (inductionHypothesis [] (by simp))
      | false =>
          rw [List.append_cons]
          refine inductionHypothesis (piece ++ [item]) fun other isOther => ?_
          rcases List.mem_append.mp isOther with earlier | last
          · exact isWhole other earlier
          · rwa [List.mem_singleton.mp last]

theorem splitAt_piece_cons
    {test : α → Bool}
    {piece rest : List α}
    {mark : α}
    (whole : ∀ item ∈ piece, test item = false)
    (marks : test mark = true) :
    splitAt test (piece ++ mark :: rest) = piece :: splitAt test rest := by
  rw [splitAt_append_cons marks, splitAt_of_forall_not whole, List.singleton_append]

/-- There is one piece more than there are marks. -/
theorem length_splitAt (test : α → Bool) (items : List α) :
    (splitAt test items).length = items.countP test + 1 := by
  induction items with
  | nil => rfl
  | cons item items inductionHypothesis =>
      obtain ⟨piece, rest, pieces⟩ :=
        List.exists_cons_of_ne_nil (splitAt_ne_nil test items)
      rw [splitAt_cons, List.countP_cons]
      rw [pieces] at inductionHypothesis ⊢
      cases marks : test item with
      | true => simpa using inductionHypothesis
      | false => simpa using inductionHypothesis

/-- Every piece that is cut stands between marks, as many of them before it as there are
pieces before it. -/
theorem exists_isPiece
    {test : α → Bool}
    {items piece : List α}
    {index : Nat}
    (found : (splitAt test items)[index]? = some piece) :
    ∃ before behind, IsPiece test items before piece behind ∧
      before.countP test = index := by
  induction items using piecewise_induction test generalizing index with
  | whole items whole =>
      rw [splitAt_of_forall_not whole] at found
      obtain ⟨rfl, rfl⟩ : index = 0 ∧ items = piece := by
        cases index <;> simp_all
      exact ⟨[], [], ⟨by simp, .inl rfl, .inl rfl, whole⟩, rfl⟩
  | cut first mark rest whole marks inductionHypothesis =>
      rw [splitAt_piece_cons whole marks] at found
      cases index with
      | zero =>
          obtain rfl : first = piece := by simpa using found
          exact ⟨[], mark :: rest,
            ⟨by simp, .inl rfl, .inr ⟨mark, rest, rfl, marks⟩, whole⟩, rfl⟩
      | succ index =>
          obtain ⟨before, behind, isPiece, counted⟩ :=
            inductionHypothesis (by simpa using found)
          refine ⟨first ++ mark :: before, behind, ⟨?_, .inr ?_, isPiece.ends,
            isPiece.whole⟩, ?_⟩
          · rw [isPiece.eq]
            simp
          · rcases isPiece.starts with rfl | ⟨front, last, rfl, isMark⟩
            · exact ⟨first, mark, rfl, marks⟩
            · exact ⟨first ++ mark :: front, last, by simp, isMark⟩
          · rw [List.countP_append, List.countP_cons, counted,
              List.countP_eq_zero.mpr (by simpa using whole)]
            simp [marks]

/-- What stands between marks is cut as a piece. -/
theorem IsPiece.getElem?_splitAt
    {test : α → Bool}
    {items before piece behind : List α}
    (isPiece : IsPiece test items before piece behind) :
    (splitAt test items)[before.countP test]? = some piece := by
  have first : (splitAt test (piece ++ behind))[0]? = some piece := by
    rcases isPiece.ends with rfl | ⟨mark, rest, rfl, marks⟩
    · rw [List.append_nil, splitAt_of_forall_not isPiece.whole]
      rfl
    · rw [splitAt_piece_cons isPiece.whole marks]
      rfl
  rw [isPiece.eq, List.append_assoc]
  rcases isPiece.starts with rfl | ⟨front, mark, rfl, marks⟩
  · exact first
  · have count : (front ++ [mark]).countP test = (splitAt test front).length := by
      rw [length_splitAt, List.countP_append, List.countP_singleton, if_pos marks]
    rw [count, List.append_assoc, List.singleton_append, splitAt_append_cons marks,
      List.getElem?_append_right (Nat.le_refl _), Nat.sub_self]
    exact first

/-- Every item that is no mark lies in a piece. -/
theorem exists_piece_of_mem
    {test : α → Bool}
    {items : List α}
    {item : α}
    (member : item ∈ items)
    (stays : test item = false) :
    ∃ piece ∈ splitAt test items, item ∈ piece := by
  induction items using piecewise_induction test with
  | whole items whole =>
      exact ⟨items, by rw [splitAt_of_forall_not whole]; simp, member⟩
  | cut piece mark rest whole marks inductionHypothesis =>
      rw [splitAt_piece_cons whole marks]
      rcases List.mem_append.mp member with here | later
      · exact ⟨piece, List.mem_cons_self, here⟩
      · rcases List.mem_cons.mp later with rfl | later
        · rw [stays] at marks
          cases marks
        · obtain ⟨other, listed, found⟩ := inductionHypothesis later
          exact ⟨other, List.mem_cons_of_mem _ listed, found⟩

end Text
end ScriptAudit
