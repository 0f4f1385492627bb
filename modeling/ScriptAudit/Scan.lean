import ScriptAudit.Event
import ScriptAudit.FileTree.Walk
import ScriptAudit.RuleSet

/-!
# Scanning

A text is scanned rule by rule and, for each rule, line by line. A tree is scanned
visit by visit. What cannot be read becomes a finding of low severity, so that no
file can stop a scan.
-/

namespace ScriptAudit

open Text (Octets)

/-- A line on which a rule did not fail to match. -/
structure Hit where
  rule : Rule
  /-- The number of the line, counted from one. -/
  number : Nat
  line : Pattern.Line
  verdict : Pattern.Verdict

namespace Hit

/-- The finding of a hit in a file. -/
def finding (file : String) (hit : Hit) : Finding :=
  Finding.matched file hit.number hit.rule.id hit.rule.description
    hit.rule.tier.severity hit.line.toList

/-- The event of a hit for which the search was abandoned. -/
def event? (hit : Hit) : Option Event :=
  match hit.verdict with
  | .gaveUp reason => some (.gaveUp hit.rule.pattern.source reason)
  | _ => none

end Hit

namespace Scan

/-- The lines of a text with their numbers. -/
def numberedLines (content : List Char) : List (Pattern.Line × Nat) :=
  ((Text.lines content).map List.toArray).zipIdx 1

/-- The hits of one rule, in the order of the lines. -/
def hitsOf (lines : List (Pattern.Line × Nat)) (rule : Rule) : List Hit :=
  lines.filterMap fun (line, number) =>
    let verdict := rule.pattern.verdict line
    if verdict.isMatch then some ⟨rule, number, line, verdict⟩ else none

/-- The hits of rules in a text, rule by rule. -/
def hits (rules : List Rule) (content : List Char) : List Hit :=
  let lines := numberedLines content
  rules.flatMap (hitsOf lines)

/-- The findings of the enabled rules of a language in a text. -/
def content (rules : RuleSet) (file : String) (content : List Char)
    (language : Language) : List Finding :=
  (hits (rules.rulesFor language) content).map (Hit.finding file)

/-- The findings in a file, whose unreadable octets are replaced. -/
def file (tree : FileTree) (rules : RuleSet) (path : Path) (name : String)
    (language : Language) : Except OsError (List Finding) :=
  (tree.read path).map fun octets =>
    content rules name (Text.decodeLossy octets) language

/-- What has been collected from a part of a walk. -/
structure Harvest where
  /-- The number of scripts that were read. -/
  filesScanned : Nat
  findings : List Finding
  events : List Event

namespace Harvest

/-- Nothing has been collected. -/
def empty : Harvest := ⟨0, [], []⟩

/-- What all parts of a walk have collected, one after the other. -/
def gather (parts : List Harvest) : Harvest where
  filesScanned := parts.foldr (fun part total => part.filesScanned + total) 0
  findings := parts.flatMap findings
  events := parts.flatMap events

/-- A directory that could not be entered. -/
def cannotWalk (file error : String) : Harvest :=
  ⟨0, [.unreadable file error], [.cannotWalk file error]⟩

/-- A script that could not be read. -/
def cannotRead (file error : String) : Harvest :=
  ⟨0, [.unreadable file error], [.cannotRead file error]⟩

/-- A file that is no script. -/
def unsupported (file : String) : Harvest :=
  ⟨0, [], [.unsupported file]⟩

/-- A script that was read. -/
def scanned (rules : RuleSet) (file : String) (language : Language)
    (octets : Octets) : Harvest :=
  let found := hits (rules.rulesFor language) (Text.decodeLossy octets)
  { filesScanned := 1
    findings := found.map (Hit.finding file)
    events := found.filterMap Hit.event? ++ [.scanned file language found.length] }

end Harvest

/-- The wording of a path that a walk could not enter. -/
def walkErrorText (path : Path) (error : OsError) : String :=
  "IO error for operation on " ++ path.display ++ ": " ++ error.message

/-- What a visit contributes to a scan whose paths are shown relative to a root. -/
def visit (tree : FileTree) (rules : RuleSet) (root : Path) : Visit → Harvest
  | .failed path error =>
      .cannotWalk (Path.relativeTo root path).display (walkErrorText path error)
  | .reached path =>
      if !tree.isFile path then .empty
      else
        let file := (Path.relativeTo root path).display
        match Language.classify? path with
        | none => .unsupported file
        | some language =>
            match tree.read path with
            | .error error => .cannotRead file error.message
            | .ok octets => .scanned rules file language octets

/-- Scan everything below a start. -/
def directory (tree : FileTree) (rules : RuleSet) (root start : Path) : Harvest :=
  .gather ((tree.walk start).map (visit tree rules root))

end Scan
end ScriptAudit
