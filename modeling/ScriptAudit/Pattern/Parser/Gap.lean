import ScriptAudit.Text.Blank

/-!
# Gaps

What a pattern may hold without saying anything. In a verbose pattern both engines leave
out blanks and the comments that end with a line, but not the same blanks: the linear
engine leaves out all of them, also inside of classes and escapes. The backtracking
engine leaves out comments in parentheses, too, and these in every pattern.
-/

namespace ScriptAudit
namespace Pattern

/-- The engine whose pattern language is read. -/
inductive Dialect
  | linear
  | backtracking
  deriving Repr, DecidableEq

namespace Parser

/-- The flags that can be switched inside a pattern. -/
structure Flags where
  /-- Letter case is ignored. -/
  fold : Bool := false
  /-- `^` and `$` also stand for the ends of lines. -/
  multiLine : Bool := false
  /-- `.` also stands for what ends a line. -/
  dotAll : Bool := false
  /-- Repetitions prefer fewer copies unless they are marked. -/
  swapped : Bool := false
  /-- Blanks and comments are left out. -/
  verbose : Bool := false
  /-- A carriage return ends a line, too, alone or in front of a line feed. -/
  carriage : Bool := false
  deriving Repr, DecidableEq

/-- Take characters as long as they pass a test, at most `limit` of them, and leave out
the gaps of a verbose pattern around them. -/
def takeSpaced (verbose : Bool) (test : Char → Bool) :
    (limit : Nat) → (inComment : Bool) → List Char → List Char × List Char
  | _, _, [] => ([], [])
  | limit, true, char :: rest => takeSpaced verbose test limit (char != '\n') rest
  | limit, false, char :: rest =>
      if verbose && Text.isBlank char then takeSpaced verbose test limit false rest
      else if verbose && char == '#' then takeSpaced verbose test limit true rest
      else
        match limit with
        | 0 => ([], char :: rest)
        | limit + 1 =>
            if test char then
              let (taken, left) := takeSpaced verbose test limit false rest
              (char :: taken, left)
            else ([], char :: rest)

/-- Leave out the gap that the linear engine sees at the start of a text. -/
def skipBlanks (verbose : Bool) (chars : List Char) : List Char :=
  (takeSpaced verbose (fun _ => true) 0 false chars).2

/-- The places in a gap that the backtracking engine sees. -/
inductive Remark
  /-- Between two comments. -/
  | outside
  /-- In a comment that ends with the line. -/
  | line
  /-- In a comment in parentheses. -/
  | enclosed
  deriving Repr, DecidableEq

/-- Whether the backtracking engine leaves a character out of a verbose pattern. -/
def isSpacing (char : Char) : Bool :=
  char == ' ' || char == '\t' || char == '\n' || char == '\r'

/-- Leave out the gap that the backtracking engine sees at the start of a text. A
comment in parentheses has to be closed, by a parenthesis without a backslash in front
of it. -/
def skipRemarks? (verbose : Bool) : Remark → List Char → Option (List Char)
  | .outside, [] => some []
  | .outside, '(' :: '?' :: '#' :: rest => skipRemarks? verbose .enclosed rest
  | .outside, char :: rest =>
      if verbose && isSpacing char then skipRemarks? verbose .outside rest
      else if verbose && char == '#' then skipRemarks? verbose .line rest
      else some (char :: rest)
  | .line, [] => some []
  | .line, char :: rest =>
      skipRemarks? verbose (if char = '\n' then .outside else .line) rest
  | .enclosed, [] => none
  | .enclosed, ')' :: rest => skipRemarks? verbose .outside rest
  | .enclosed, '\\' :: _ :: rest => skipRemarks? verbose .enclosed rest
  | .enclosed, _ :: rest => skipRemarks? verbose .enclosed rest

/-- Leave out the gap at the start of a text, unless a comment in it is not closed. -/
def skip? (dialect : Dialect) (flags : Flags) (chars : List Char) : Option (List Char) :=
  match dialect with
  | .linear => some (skipBlanks flags.verbose chars)
  | .backtracking => skipRemarks? flags.verbose .outside chars

end Parser
end Pattern
end ScriptAudit
