import ScriptAudit.Path

/-!
# File trees

A file tree is a finite map from locations to files, directories and symbolic
links. Looking a path up follows the links on its way, and a locked directory lets
nothing below it be looked up. The errors are those of the operating system.
-/

namespace ScriptAudit

open Text (Octets)

/-- The reasons for which the operating system refuses a path. -/
inductive OsError
  | notFound
  | denied
  | notDirectory
  | isDirectory
  | tooManyLinks
  deriving Repr, DecidableEq

/-- The wording of a refusal. -/
def OsError.message : OsError → String
  | .notFound => "No such file or directory (os error 2)"
  | .denied => "Permission denied (os error 13)"
  | .notDirectory => "Not a directory (os error 20)"
  | .isDirectory => "Is a directory (os error 21)"
  | .tooManyLinks => "Too many levels of symbolic links (os error 40)"

/-- The names that lead from the top of a tree to one of its nodes. -/
abbrev Location := List Octets

/-- What stands at a location. -/
inductive Entry
  | file (content : Octets)
  | directory
  | link (target : Path)
  deriving Repr, DecidableEq

/-- A node of a file tree. -/
structure Node where
  location : Location
  entry : Entry
  /-- Whether reading the file or looking into the directory is forbidden. -/
  locked : Bool
  deriving Repr, DecidableEq

/-- Whether a node is a directory. -/
def Node.isDirectory (node : Node) : Bool :=
  node.entry = .directory

/-- Whether some nodes hold a directory at a location. The top directory is always
there. -/
def HoldsDirectory (nodes : List Node) (location : Location) : Prop :=
  location = [] ∨ ∃ node ∈ nodes, node.location = location ∧ node.isDirectory

instance (nodes : List Node) (location : Location) :
    Decidable (HoldsDirectory nodes location) :=
  inferInstanceAs (Decidable (_ ∨ _))

/-- Whether an entry can stand at a location among some nodes: it has a name, and
there is a directory around it. -/
def HasRoom (nodes : List Node) (location : Location) : Prop :=
  location.getLast?.any (fun name => decide (Path.IsName name)) ∧
    HoldsDirectory nodes location.dropLast

instance (nodes : List Node) (location : Location) :
    Decidable (HasRoom nodes location) :=
  inferInstanceAs (Decidable (_ ∧ _))

/-- A directory is not lost when nodes are changed where they stand. -/
theorem HoldsDirectory.map
    {nodes : List Node}
    {location : Location}
    {change : Node → Node}
    (holds : HoldsDirectory nodes location)
    (stays : ∀ node, (change node).location = node.location)
    (remains : ∀ node, node.isDirectory → (change node).isDirectory) :
    HoldsDirectory (nodes.map change) location := by
  rcases holds with top | ⟨node, present, located, directory⟩
  · exact .inl top
  · refine .inr ⟨change node, List.mem_map_of_mem present, ?_, remains node directory⟩
    rw [stays, located]

/-- A directory is not lost when nodes are added. -/
theorem HoldsDirectory.append
    {nodes : List Node}
    {location : Location}
    (holds : HoldsDirectory nodes location)
    (added : List Node) :
    HoldsDirectory (nodes ++ added) location := by
  rcases holds with top | ⟨node, present, located, directory⟩
  · exact .inl top
  · exact .inr ⟨node, List.mem_append_left added present, located, directory⟩

/-- A tree of files below a top directory, which is always there. -/
structure FileTree where
  nodes : List Node
  /-- The directory at which relative paths start. -/
  working : Location
  /-- No two nodes stand at one location. -/
  distinct : (nodes.map Node.location).Nodup
  /-- Every node has a name and stands in a directory. -/
  rooted : ∀ node ∈ nodes, HasRoom nodes node.location
  deriving Repr, DecidableEq

/-- The result of a look-up that did not fail on its way. -/
inductive Place
  /-- Something stands at the location. -/
  | present (node : Node)
  /-- Nothing stands there, but the directory around it can be looked into. -/
  | absent (location : Location)
  deriving Repr, DecidableEq

namespace FileTree

/-- The top directory. -/
def top : Node :=
  ⟨[], .directory, false⟩

/-- The node at a location. -/
def get? (tree : FileTree) (location : Location) : Option Node :=
  if location = [] then some top
  else tree.nodes.find? fun node => node.location = location

/-- The names through which a path leads. A slash at the end asks for a directory
and is kept as an empty name. -/
def steps (path : Path) : List Octets :=
  path.segments.filter (· ≠ []) ++
    if path.getLast? = some Path.slash then [[]] else []

/-- The largest number of links that are followed for one path. -/
def linkLimit : Nat := 40

/-- What is wanted at the end of a path. -/
inductive Ending
  /-- Whatever stands there, be it a link. -/
  | itself
  /-- What a link that stands there leads to. -/
  | followed
  /-- The same, but as a file that is created if it is missing; a name with a slash
  behind it can only be a directory. -/
  | created
  deriving Repr, DecidableEq

/-- Follow names from a node. Links on the way are always followed, a link at the
end only if asked to. -/
def locate (tree : FileTree) (ending : Ending) (links : Nat) (node : Node) :
    List Octets → Except OsError Place
  | [] => .ok (.present node)
  | name :: rest =>
      if !node.isDirectory then .error .notDirectory
      else if name = [] then tree.locate ending links node rest
      else if node.locked then .error .denied
      else if name = Path.dot then tree.locate ending links node rest
      else if name = Path.dotDot then
        match tree.get? node.location.dropLast with
        | some parent => tree.locate ending links parent rest
        | none => .error .notFound
      else if ending = .created && rest = [[]] then .error .isDirectory
      else
        match tree.get? (node.location ++ [name]) with
        | none =>
            if rest = [] then .ok (.absent (node.location ++ [name]))
            else .error .notFound
        | some found =>
            match found.entry with
            | .link target =>
                if rest = [] && ending = .itself then .ok (.present found)
                else
                  match links with
                  | 0 => .error .tooManyLinks
                  | links + 1 =>
                      tree.locate ending links (if target.isAbsolute then top else node)
                        (steps target ++ rest)
            | _ => tree.locate ending links found rest
termination_by steps => (links, steps.length)

/-- The node at which a path starts. -/
def origin? (tree : FileTree) (path : Path) : Option Node :=
  if path.isAbsolute then some top else tree.get? tree.working

/-- Follow names from the node at which a path starts. -/
def follow (tree : FileTree) (ending : Ending) (path : Path) (names : List Octets) :
    Except OsError Place :=
  match tree.origin? path with
  | none => .error .notFound
  | some node => tree.locate ending linkLimit node names

/-- The place of a path. -/
def place (tree : FileTree) (ending : Ending) (path : Path) : Except OsError Place :=
  if path = [] then .error .notFound else tree.follow ending path (steps path)

/-- The node at the end of a path. -/
def nodeAt (tree : FileTree) (ending : Ending) (path : Path) : Except OsError Node :=
  match tree.place ending path with
  | .error error => .error error
  | .ok (.absent _) => .error .notFound
  | .ok (.present node) => .ok node

/-- The node that a path leads to, links followed. -/
def status (tree : FileTree) (path : Path) : Except OsError Node :=
  tree.nodeAt .followed path

/-- The node that a path leads to, a link at its end not followed. -/
def linkStatus (tree : FileTree) (path : Path) : Except OsError Node :=
  tree.nodeAt .itself path

/-- Whether a path leads to anything. -/
def pathExists (tree : FileTree) (path : Path) : Bool :=
  (tree.status path).isOk

/-- Whether a path leads to a directory. -/
def isDirectory (tree : FileTree) (path : Path) : Bool :=
  match tree.status path with
  | .ok node => node.isDirectory
  | .error _ => false

/-- Whether a path leads to a regular file. -/
def isFile (tree : FileTree) (path : Path) : Bool :=
  match tree.status path with
  | .ok ⟨_, .file _, _⟩ => true
  | _ => false

/-- The content of a node. -/
def contentOf (node : Node) : Except OsError Octets :=
  if node.locked then .error .denied
  else
    match node.entry with
    | .file content => .ok content
    | .directory => .error .isDirectory
    | .link _ => .error .tooManyLinks

/-- The content of the file that a path leads to. -/
def read (tree : FileTree) (path : Path) : Except OsError Octets :=
  match tree.status path with
  | .ok node => contentOf node
  | .error error => .error error

/-- Change nodes where they stand. A directory remains one. -/
def modify
    (tree : FileTree)
    (change : Node → Node)
    (stays : ∀ node, (change node).location = node.location)
    (remains : ∀ node, node.isDirectory → (change node).isDirectory) : FileTree where
  nodes := tree.nodes.map change
  working := tree.working
  distinct := by
    have same : Node.location ∘ change = Node.location := funext stays
    simpa [same] using tree.distinct
  rooted := by
    intro changed present
    obtain ⟨node, old, rfl⟩ := List.mem_map.mp present
    rw [stays]
    exact ⟨(tree.rooted node old).1, (tree.rooted node old).2.map stays remains⟩

/-- Add an entry at a location where nothing stands. -/
def add
    (tree : FileTree)
    (location : Location)
    (entry : Entry)
    (vacant : location ∉ tree.nodes.map Node.location)
    (room : HasRoom tree.nodes location) : FileTree where
  nodes := tree.nodes ++ [⟨location, entry, false⟩]
  working := tree.working
  distinct := by
    rw [List.map_append, List.nodup_append]
    exact ⟨tree.distinct, by simp, fun other present _ added =>
      fun same => vacant (by simp_all)⟩
  rooted := by
    intro node present
    have placed : HasRoom tree.nodes node.location := by
      rcases List.mem_append.mp present with old | added
      · exact tree.rooted node old
      · rw [List.mem_singleton.mp added]
        exact room
    exact ⟨placed.1, placed.2.append _⟩

/-- Put an entry at a location, in place of what stands there. A directory is kept,
and nothing is put where there is no room for it. -/
def put (tree : FileTree) (location : Location) (entry : Entry) : FileTree :=
  if taken : location ∈ tree.nodes.map Node.location then
    tree.modify
      (fun node =>
        if node.location = location && !node.isDirectory then { node with entry := entry }
        else node)
      (fun node => by split <;> rfl)
      (fun node directory => by simp [directory])
  else if room : HasRoom tree.nodes location then tree.add location entry taken room
  else tree

/-- Write a file, which is created if it is missing. -/
def write (tree : FileTree) (path : Path) (content : Octets) :
    Except OsError FileTree :=
  match tree.place .created path with
  | .error error => .error error
  | .ok (.absent location) => .ok (tree.put location (.file content))
  | .ok (.present node) =>
      if node.isDirectory then .error .isDirectory
      else if node.locked then .error .denied
      else .ok (tree.put node.location (.file content))

/-- Create the directories that a path leads through, where they are missing. -/
def makeParents (tree : FileTree) (path : Path) : FileTree :=
  let names := path.segments.filter (· ≠ [])
  (List.range names.length).foldl
    (fun tree count =>
      match tree.follow .followed path (names.take count) with
      | .ok (.absent location) => tree.put location .directory
      | _ => tree)
    tree

/-- Create an entry at a path, together with the directories around it. A
directory that is there already is kept. -/
def create (tree : FileTree) (path : Path) (entry : Entry) : FileTree :=
  let tree := tree.makeParents path
  let ending := if entry matches .file _ then .followed else .itself
  match entry, tree.place ending path with
  | _, .ok (.absent location) => tree.put location entry
  | .file content, .ok (.present node) => tree.put node.location (.file content)
  | _, _ => tree

/-- Forbid to read the file or to look into the directory at a location. -/
def lock (tree : FileTree) (location : Location) : FileTree :=
  tree.modify
    (fun node => if node.location = location then { node with locked := true } else node)
    (fun node => by split <;> rfl)
    (fun node directory => by split <;> exact directory)

/-- The same tree without locks. -/
def unlocked (tree : FileTree) : FileTree :=
  tree.modify (fun node => { node with locked := false }) (fun _ => rfl) (fun _ => id)

/-- The location of a directory to work in. No path of the operating system leads
into it from the outside, because none can hold the octet of its name. -/
def workplace : Location := [[0x00]]

/-- The tree with nothing but a directory to work in. -/
def blank : FileTree where
  nodes := [⟨workplace, .directory, false⟩]
  working := workplace
  distinct := by simp
  rooted := by decide

/-- Create entries in order, and then lock those that are marked. -/
def ofEntries (entries : List (Path × Entry × Bool)) : FileTree :=
  let made := entries.foldl
    (fun tree (path, entry, _) => tree.create path entry) blank
  entries.foldl
    (fun tree (path, _, locked) =>
      if locked then
        match made.status path with
        | .ok node => tree.lock node.location
        | .error _ => tree
      else tree)
    made

end FileTree
end ScriptAudit
