import ScriptAudit.Pattern.Backtrack
import ScriptAudit.Pattern.Parser

/-!
# Compiled patterns

A rule's pattern is always matched without regard to letter case and anywhere in
a line. Most patterns run on the linear engine. A pattern whose text contains the
opening of a lookaround is handed to the backtracking engine instead; when that
engine gives up on a line, the line counts as a match.
-/

namespace ScriptAudit
namespace Pattern

/-- A pattern that cannot be read in the language of its engine. -/
structure PatternError where
  dialect : Dialect
  deriving Repr, DecidableEq

/-- The wording of an unreadable pattern. -/
def PatternError.message (error : PatternError) : String :=
  match error.dialect with
  | .linear => "regex compile error"
  | .backtracking => "fancy_regex compile error"

/-- How the lines are searched. -/
inductive Engine
  /-- Search for all matches at once. -/
  | linear (regex : Regex)
  /-- The pattern was written for the backtracking engine, but the linear one can
  settle it as a whole. -/
  | settled (regex : Regex)
  /-- Search along a plan, going back from failures. -/
  | backtracking (plan : Plan Regex)

/-- A pattern that is ready to be searched for. -/
structure Compiled where
  /-- The text of the pattern, with the flag that ignores letter case. -/
  source : String
  engine : Engine

/-- The answer of a pattern for one line. -/
inductive Verdict
  | hit
  | miss
  | gaveUp (reason : Abort)
  deriving Repr, DecidableEq

/-- The texts that open a lookaround. -/
def lookaroundMarks : List (List Char) :=
  [['(', '?', '='], ['(', '?', '!'], ['(', '?', '<', '='], ['(', '?', '<', '!']]

/-- Whether a text contains another one. -/
def containsText (mark : List Char) : List Char → Bool
  | [] => mark.isEmpty
  | char :: rest => mark.isPrefixOf (char :: rest) || containsText mark rest

/-- The language in which a pattern is read: the backtracking engine's if some
lookaround is opened in its text. -/
def dialectOf (pattern : List Char) : Dialect :=
  if lookaroundMarks.any fun mark => containsText mark pattern then .backtracking
  else .linear

/-- The engine for an expression of the backtracking language. -/
def Engine.ofHard? (regex : Regex) : Option Engine :=
  if regex.isHard then regex.plan?.map Engine.backtracking
  else if regex.isAcceptable then some (.settled regex)
  else none

/-- The engine for a pattern text that already carries its flags. -/
def Engine.ofSource? (dialect : Dialect) (source : List Char) : Option Engine :=
  match dialect with
  | .linear =>
      ((parse? .linear source).filter Regex.isAcceptable).map Engine.linear
  | .backtracking => (parse? .backtracking source).bind Engine.ofHard?

/-- The flag that ignores letter case, in front of every pattern. -/
def foldMark : String := "(?i)"

namespace Compiled

/-- Read a pattern and choose its engine. -/
def ofPattern (pattern : String) : Except PatternError Compiled :=
  let source := foldMark ++ pattern
  let dialect := dialectOf pattern.toList
  match Engine.ofSource? dialect source.toList with
  | some engine => .ok ⟨source, engine⟩
  | none => .error ⟨dialect⟩

/-- Whether the pattern was written for the backtracking engine. -/
def usesBacktracking (compiled : Compiled) : Bool :=
  match compiled.engine with
  | .linear _ => false
  | _ => true

/-- Search a line. -/
def verdict (compiled : Compiled) (line : Line) : Verdict :=
  match compiled.engine with
  | .linear regex => if regex.found line then .hit else .miss
  | .settled regex => if regex.found line then .hit else .miss
  | .backtracking plan =>
      match plan.search line with
      | .matched .. => .hit
      | .failed _ => .miss
      | .aborted reason => .gaveUp reason

end Compiled

/-- A line counts as a match unless the pattern is known not to occur in it. -/
def Verdict.isMatch : Verdict → Bool
  | .miss => false
  | _ => true

/-- Whether the pattern occurs in the line, or might. -/
def Compiled.isMatch (compiled : Compiled) (line : Line) : Bool :=
  (compiled.verdict line).isMatch

/-- The wording of an abandoned search. -/
def Abort.message : Abort → String
  | .retries => "Error executing regex: Max limit for backtracking count exceeded"
  | .choices => "Error executing regex: Max stack size exceeded for backtracking"

end Pattern
end ScriptAudit
