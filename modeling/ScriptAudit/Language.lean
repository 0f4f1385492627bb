import ScriptAudit.Path
import ScriptAudit.Text.Lowercase

/-!
# Script languages

The language of a script follows from the extension of its path alone; its
content is never looked at.
-/

namespace ScriptAudit

/-- A language that rules are written for. -/
inductive Language
  | python
  | bash
  | javascript
  deriving Repr, DecidableEq

namespace Language

/-- All languages, in the order in which they are listed. -/
def all : List Language :=
  [.python, .bash, .javascript]

/-- The name of a language. -/
def name : Language → String
  | .python => "python"
  | .bash => "bash"
  | .javascript => "javascript"

/-- The extensions of scripts, in lower case. -/
def extensions : List (String × Language) :=
  [("py", .python), ("sh", .bash), ("bash", .bash),
    ("js", .javascript), ("mjs", .javascript), ("ts", .javascript)]

/-- The language of an extension, in any letter case. Octets that are no text are no
extension of a script. -/
def ofExtension? (extension : Text.Octets) : Option Language :=
  (Text.decode? extension).bind fun chars =>
    (extensions.find? fun known => known.1.toList == Text.lowercase chars).map (·.2)

/-- The language of the script at a path. -/
def classify? (path : Path) : Option Language :=
  path.extension?.bind ofExtension?

end Language
end ScriptAudit
