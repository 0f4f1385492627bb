import ScriptAudit.Text.Line
import ScriptAudit.Text.Utf8

/-!
# Paths

A path is a sequence of octets in which slashes separate segments. Its components
are what the segments mean: empty segments mean nothing, and a single dot means
the current directory only at the very start.
-/

namespace ScriptAudit

open Text (Octets)

/-- A path as it is written. -/
abbrev Path := Octets

namespace Path

/-- The octet that separates segments. -/
def slash : UInt8 := 0x2F

/-- The segment that names the directory itself. -/
def dot : Octets := [0x2E]

/-- The segment that names the parent directory. -/
def dotDot : Octets := [0x2E, 0x2E]

/-- Whether a segment can be the name of an entry. -/
def IsName (segment : Octets) : Prop :=
  segment ≠ [] ∧ segment ≠ dot ∧ segment ≠ dotDot ∧ slash ∉ segment

instance (segment : Octets) : Decidable (IsName segment) :=
  inferInstanceAs (Decidable (_ ∧ _ ∧ _ ∧ _))

/-- The meaning of one segment. -/
inductive Component
  | root
  | current
  | parent
  | name (octets : Octets)
  deriving Repr, DecidableEq

/-- The octets of a text as a path. -/
def ofString (text : String) : Path :=
  Text.encode text.toList

/-- A path as text, with unreadable octets replaced. -/
def display (path : Path) : String :=
  String.ofList (Text.decodeLossy path)

/-- The parts of a path between its slashes. -/
def segments (path : Path) : List Octets :=
  Text.splitAt (· == slash) path

/-- Whether a path starts at the root of all files. -/
def isAbsolute (path : Path) : Bool :=
  path.head? == some slash

/-- What a segment that is not the first one means. -/
def component? (segment : Octets) : Option Component :=
  if segment = [] || segment = dot then none
  else if segment = dotDot then some .parent
  else some (.name segment)

/-- What the first segment means. -/
def firstComponent? (absolute : Bool) (segment : Octets) : Option Component :=
  if absolute then some .root
  else if segment = dot then some .current
  else component? segment

/-- The components of a path, each at its segment. -/
def meanings (path : Path) : List (Octets × Option Component) :=
  match path.segments with
  | [] => []
  | first :: rest =>
      (first, firstComponent? path.isAbsolute first) ::
        rest.map fun segment => (segment, component? segment)

/-- The components of a path. -/
def components (path : Path) : List Component :=
  path.meanings.filterMap (·.2)

/-- Put segments together again. -/
def joinSegments : List Octets → Path
  | [] => []
  | [last] => last
  | segment :: rest => segment ++ slash :: joinSegments rest

/-- The text of a component. -/
def Component.octets : Component → Octets
  | .root => []
  | .current => dot
  | .parent => dotDot
  | .name octets => octets

/-- Write components as a path, without anything superfluous. -/
def ofComponents (components : List Component) : Path :=
  if components = [.root] then [slash]
  else joinSegments (components.map Component.octets)

/-- A path below another one. An absolute path stands for itself. -/
def join (base path : Path) : Path :=
  if path.isAbsolute then path
  else if base = [] || base.getLast? = some slash then base ++ path
  else base ++ slash :: path

/-- Remove the segments of the first components, given how many they are. -/
def dropComponents :
    (count : Nat) → List (Octets × Option Component) →
      List (Octets × Option Component)
  | 0, meanings => meanings
  | _, [] => []
  | count + 1, (_, none) :: rest => dropComponents (count + 1) rest
  | count + 1, (_, some _) :: rest => dropComponents count rest

/-- Remove segments without meaning. -/
def dropIdle (meanings : List (Octets × Option Component)) :
    List (Octets × Option Component) :=
  meanings.dropWhile fun meaning => meaning.2.isNone

/-- What remains of a path behind the components of a base, if it starts with
them. Segments without meaning at the ends of the remainder are dropped. -/
def stripPrefix? (base path : Path) : Option Path :=
  let baseComponents := base.components
  if baseComponents.isPrefixOf path.components then
    let behind := dropComponents baseComponents.length path.meanings
    let trimmed := ((dropIdle (dropIdle behind).reverse).reverse).map (·.1)
    some <|
      match trimmed with
      | [[]] => [slash]
      | trimmed => joinSegments trimmed
  else none

/-- A path as seen from a base, or as it is when it does not lie below. -/
def relativeTo (base path : Path) : Path :=
  (stripPrefix? base path).getD path

/-- The name at the end of a path, if it ends in one. -/
def fileName? (path : Path) : Option Octets :=
  match path.components.getLast? with
  | some (.name octets) => some octets
  | _ => none

/-- What follows the last dot of a name that does not start with it. -/
def extensionOfName? (name : Octets) : Option Octets :=
  let behind := name.reverse.takeWhile (· != 0x2E)
  if name.length ≤ behind.length + 1 then none else some behind.reverse

/-- The extension of the name at the end of a path. -/
def extension? (path : Path) : Option Octets :=
  path.fileName?.bind extensionOfName?

end Path
end ScriptAudit
