import ScriptAudit.Text.Blank

/-!
# Lines

A text is cut at every line feed, which belongs to no line. There is always at
least one line, and a text that ends in a line feed has an empty last one.
-/

namespace ScriptAudit
namespace Text

/-- The pieces between the places where a test holds. -/
def splitAt (test : α → Bool) (items : List α) : List (List α) :=
  items.foldr
    (fun item pieces =>
      if test item then [] :: pieces
      else
        match pieces with
        | [] => [[item]]
        | piece :: rest => (item :: piece) :: rest)
    [[]]

@[simp] theorem splitAt_nil (test : α → Bool) :
    splitAt test ([] : List α) = [[]] := rfl

/-- The lines of a text. -/
def lines (chars : List Char) : List (List Char) :=
  splitAt (· == '\n') chars

/-- The largest number of characters quoted from a line. -/
def excerptLength : Nat := 100

/-- What is quoted from a line: its first characters, without surrounding
blanks. -/
def excerpt (chars : List Char) : String :=
  String.ofList ((trim chars).take excerptLength)

end Text
end ScriptAudit
