import ScriptAudit.FileTree

/-!
# Walking a file tree

A walk goes depth first: it visits a directory, and then one after the other what
stands in it, in the order of the octets of the names, each with everything below it.
Links below the start are visited but not entered, and a locked directory is reported
in place of its content.
-/

namespace ScriptAudit

open Text (Octets)

/-- A visit of a walk. -/
inductive Visit
  /-- Something stands at the path. -/
  | reached (path : Path)
  /-- The path could not be entered. -/
  | failed (path : Path) (error : OsError)
  deriving Repr, DecidableEq

namespace Node

/-- The name under which a node stands in the directory around it. -/
def name (node : Node) : Octets :=
  node.location.getLastD []

/-- The visits of a node at a path. A directory that cannot be looked into is reported
behind itself. -/
def visits (node : Node) (path : Path) : List Visit :=
  if node.isDirectory && node.locked then [.reached path, .failed path .denied]
  else [.reached path]

end Node

namespace FileTree

/-- What stands in a directory, in the order of the octets of its names. -/
def listing (tree : FileTree) (directory : Node) : List Node :=
  (tree.nodes.filter fun node => node.location.dropLast = directory.location).mergeSort
    fun first second => decide (first.name ≤ second.name)

/-- A node that stands at a path, followed by everything below it, depth first. A link
is not entered, and neither is a locked directory. As many levels are walked as are
asked for. -/
def traverse (tree : FileTree) : Nat → Path → Node → List (Path × Node)
  | 0, _, _ => []
  | levels + 1, path, node =>
      (path, node) ::
        if node.isDirectory && !node.locked then
          (tree.listing node).flatMap fun entry =>
            tree.traverse levels (path.join entry.name) entry
        else []

/-- The number of names that lead to the deepest node. -/
def height (tree : FileTree) : Nat :=
  tree.nodes.foldr (fun node height => max node.location.length height) 0

/-- The visits of the node at which a walk starts and of everything below it. No level
is left out. -/
def visitsFrom (tree : FileTree) (start : Path) (node : Node) : List Visit :=
  (tree.traverse (tree.height + 1) start node).flatMap fun (path, entry) =>
    entry.visits path

/-- All visits of a walk. A link at the start is followed. -/
def walk (tree : FileTree) (start : Path) : List Visit :=
  match tree.linkStatus start with
  | .error error => [.failed start error]
  | .ok node =>
      match node.entry with
      | .directory => tree.visitsFrom start node
      | .file _ => [.reached start]
      | .link _ =>
          match tree.status start with
          | .error error => [.failed start error]
          | .ok target =>
              if target.isDirectory then tree.visitsFrom start target
              else [.reached start]

end FileTree
end ScriptAudit
