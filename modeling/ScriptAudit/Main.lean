import ScriptAudit.CommandLine

/-!
# The program

The outer layer of the program. It looks at the part of the file system that a run
depends on, runs the command line on what it has seen, and delivers the result.
-/

namespace ScriptAudit
namespace Program

open Text (Octets)

/-- Something that was seen in the file system: where it stands, what it is, and
whether it may not be read. -/
abbrev Sighting := Path × Entry × Bool

/-- The file at a path, without its content if that is not wanted. -/
def sightFile (path : String) (wanted : Bool) : IO Sighting := do
  if !wanted then return (Path.ofString path, .file [], false)
  try
    let content ← IO.FS.readBinFile path
    return (Path.ofString path, .file content.toList, false)
  catch _ => return (Path.ofString path, .file [], true)

/-- The names in the directory at a path, if it can be looked into. -/
def namesIn? (path : String) : IO (Option (List String)) := do
  let here ← IO.currentDir
  try
    let entries ← (here / path).readDir
    return some (entries.toList.map (·.fileName))
  catch _ => return none

/-- The kind of what stands at a path. -/
def kindAt? (path : String) : IO (Option IO.FS.FileType) := do
  let here ← IO.currentDir
  try
    let metadata ← (here / path).symlinkMetadata
    return some metadata.type
  catch _ => return none

/-- The path to which a link finally leads. -/
def destination? (path : String) : IO (Option String) := do
  try
    let destination ← IO.FS.realPath path
    return some destination.toString
  catch _ => return none

/-- A path that leads nowhere, because no name has a null octet. -/
def nowhere : Path := [0]

/-- What stands at an absolute path. A link is seen together with what it finally
leads to. -/
def sight (path : String) (wanted : Bool) : IO (List Sighting) := do
  match ← kindAt? path with
  | none => return []
  | some .dir => return [(Path.ofString path, .directory, (← namesIn? path).isNone)]
  | some .symlink =>
      match ← destination? path with
      | none => return [(Path.ofString path, .link nowhere, false)]
      | some destination =>
          let link := (Path.ofString path, .link (Path.ofString destination), false)
          match ← namesIn? destination with
          | some _ => return [link, (Path.ofString destination, .directory, false)]
          | none => return [link, ← sightFile destination wanted]
  | some _ => return [← sightFile path wanted]

/-- The paths of all directories that a path leads through, and the path itself. -/
def approaches (path : String) : List String :=
  let names := (path.splitOn "/").filter (· ≠ "")
  (List.range names.length).map fun count =>
    "/" ++ String.intercalate "/" (names.take (count + 1))

/-- A path from the root of the file system on. -/
def absolute (path : Path) : IO String := do
  let here ← IO.currentDir
  return (here / path.display).toString

/-- What stands at a path and on the way to it. -/
def sightAlong (path : Path) : IO (List Sighting) := do
  let seen ← (approaches (← absolute path)).mapM fun passed => sight passed true
  return seen.flatten

/-- What stands below a directory. Links are not entered, and of files that are no
scripts the content is not wanted. -/
partial def sightBelow (directory : String) : IO (List Sighting) := do
  let names := (← namesIn? directory).getD []
  let seen ← names.mapM fun name => do
    let path := directory ++ "/" ++ name
    let here ← sight path (Language.classify? (Path.ofString path)).isSome
    match ← kindAt? path with
    | some .dir => return here ++ (← sightBelow path)
    | _ => return here
  return seen.flatten

/-- The file tree that has been seen. -/
def treeOf (sightings : List Sighting) : IO FileTree := do
  let here ← IO.currentDir
  let working := (Path.ofString here.toString).segments.filter (· ≠ [])
  return { FileTree.ofEntries sightings with working := working }

/-- Look at everything that a scan with some options depends on. -/
def survey (options : CommandLine.Options) : IO FileTree := do
  let named := options.config.toList ++ options.target.toList ++ options.output.toList
  let seen := (← named.mapM sightAlong).flatten
  let tree ← treeOf seen
  match options.target with
  | none => return tree
  | some target =>
      let config : Config :=
        match options.config.map (Config.load tree) with
        | some (.ok config) => config
        | _ => {}
      let start := target.join (Path.ofString config.scriptsDir)
      let around ← sightAlong start
      let below ← sightBelow (← absolute start)
      treeOf (seen ++ around ++ below)

/-- Write the file that a run has changed. -/
def deliver (result : CommandLine.Result) (output : Option Path) : IO Unit := do
  if let some path := output then
    if let .ok content := result.tree.read path then
      IO.FS.writeBinFile path.display ⟨content.toArray⟩

/-- Why the system refused to write a file. -/
def refusal (error : IO.Error) : String :=
  match error with
  | .noFileOrDirectory .. => OsError.notFound.message
  | .permissionDenied .. => OsError.denied.message
  | .inappropriateType _ code _ =>
      if code = 20 then OsError.notDirectory.message else OsError.isDirectory.message
  | other => toString other

/-- Run the program in the file system. -/
def execute (environment : Option Octets) (arguments : List Octets) : IO UInt32 := do
  match CommandLine.readRequest environment arguments with
  | .ok (.perform options) =>
      let tree ← survey options
      let result := CommandLine.run tree environment arguments
      IO.print result.stdout
      IO.eprint result.stderr
      try
        if result.tree ≠ tree then deliver result options.output
        return result.exitCode.toUInt32
      catch error =>
        IO.eprintln ("Error: IO error: " ++ refusal error)
        return 2
  | _ =>
      let result := CommandLine.run .blank environment arguments
      IO.print result.stdout
      IO.eprint result.stderr
      return result.exitCode.toUInt32

end Program
end ScriptAudit

/-- Run the program with the arguments of the command line. -/
def main (arguments : List String) : IO UInt32 := do
  let environment ← IO.getEnv ScriptAudit.CommandLine.configVariable
  ScriptAudit.Program.execute (environment.map ScriptAudit.Path.ofString)
    (arguments.map ScriptAudit.Path.ofString)
