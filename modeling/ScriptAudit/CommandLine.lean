import ScriptAudit.Audit
import ScriptAudit.CommandLine.Options
import ScriptAudit.Text.Plain

/-!
# The command line

The program as a function: from its arguments, the environment and a file tree to an
exit code, two texts and a tree.
-/

namespace ScriptAudit
namespace CommandLine

open Text (Octets)

/-- What a run of the program leaves behind. -/
structure Result where
  exitCode : Nat
  stdout : String
  stderr : String
  tree : FileTree

/-- The name of the program. -/
def programName : String := Report.Sarif.toolName

/-- What the program says when it is given nothing to do. -/
def usage : String :=
  "Usage: " ++ programName ++ " <skill-directory-path>\n"

/-- The variable of the environment that names a configuration file. -/
def configVariable : String := "SKILLGATE_CONFIG"

/-- The column of the help text in which options are described. -/
def descriptionColumn : Nat := 25

/-- A text whose further lines start in the column of descriptions. -/
def indented (text : String) : String :=
  String.ofList (text.toList.flatMap fun char =>
    if char = '\n' then char :: List.replicate descriptionColumn ' ' else [char])

/-- The help text, which shows the environment. -/
def helpText (environment : Option Octets) : String :=
  "Static security scan of an agent skill's scripts before execution\n\n" ++
    "Usage: " ++ programName ++ " [OPTIONS] [PATH]\n\n" ++
    "Arguments:\n" ++
    "  [PATH]  Path to the skill directory\n\n" ++
    "Options:\n" ++
    "  -c, --config <CONFIG>  Config file path [env: " ++ configVariable ++ "=" ++
      indented (Path.display (environment.getD [])) ++ "]\n" ++
    "  -f, --format <FORMAT>  Output format (json, console, sarif) [default: json]\n" ++
    "  -o, --output <OUTPUT>  Write output to file instead of stdout\n" ++
    "      --list-rules       List all detection rules and exit\n" ++
    "      --print-config     Print a starter config file and exit\n" ++
    "  -h, --help             Print help\n" ++
    "  -V, --version          Print version\n"

/-- A text without what would steer a terminal. -/
def plainText (text : String) : String :=
  String.ofList (Text.plain text.toList)

/-- The version text. -/
def versionText : String :=
  programName ++ " " ++ Report.Sarif.toolVersion ++ "\n"

/-- A failure of the program, with what it has said before. -/
def failure (tree : FileTree) (warning : String) (error : AuditError) : Result :=
  ⟨error.exitCode, "", warning ++ "Error: " ++ error.message ++ "\n", tree⟩

/-- A text filled up with blanks on the right. -/
def padded (width : Nat) (text : String) : String :=
  text ++ String.ofList (List.replicate (width - text.length) ' ')

/-- One line of the table of rules. -/
def tableRow (id language severity description : String) : String :=
  padded 8 id ++ " " ++ padded 12 language ++ " " ++ padded 9 severity ++ " " ++
    description ++ "\n"

/-- The rules as a table. -/
def rulesTable (rules : List RuleInfo) : String :=
  tableRow "ID" "LANGUAGE" "SEVERITY" "DESCRIPTION" ++
    String.ofList (List.replicate 72 '-') ++ "\n" ++
    String.join (rules.map fun rule =>
      tableRow rule.id rule.language.name rule.severity.name rule.description)

/-- The rules as JSON. -/
def rulesJson (rules : List RuleInfo) : String :=
  (Json.array (rules.map RuleInfo.toJson)).pretty ++ "\n"

/-- List the rules that a configuration leaves switched on. Every format but the
console's stands for JSON. -/
def listRules (tree : FileTree) (options : Options) : Result :=
  let config : Except AuditError Config :=
    match options.config with
    | some path => Config.load tree path
    | none => .ok {}
  match config with
  | .error error => failure tree "" error
  | .ok config =>
      match RuleSet.without config.disabled with
      | .error error => failure tree "" error
      | .ok rules =>
          let text :=
            match Report.Format.ofName? (options.format.getD "json") with
            | some .console => rulesTable rules.list
            | _ => rulesJson rules.list
          ⟨0, text, "", tree⟩

/-- What is said about a format that is not known. -/
def formatWarning (name : String) : String :=
  "Warning: unknown format '" ++ name ++ "', using json\n"

/-- The format with a name, and what is said about an unknown one, for which JSON
is used. -/
def chooseFormat (name : String) : Report.Format × String :=
  match Report.Format.ofName? name with
  | some format => (format, "")
  | none => (.json, formatWarning name)

/-- The exit code of a scan that was delivered. -/
def verdictCode (report : Report) : Nat :=
  if report.passed then 0 else 1

/-- Scan a skill and deliver the report. -/
def scan (tree : FileTree) (target : Path) (options : Options) : Result :=
  let (format, warning) := chooseFormat (options.format.getD "json")
  match (Audit.run tree target options.config).result with
  | .error error => failure tree warning error
  | .ok report =>
      let text := report.render format
      match options.output with
      | none => ⟨verdictCode report, text ++ "\n", warning, tree⟩
      | some path =>
          match tree.write path (Text.encode text.toList) with
          | .error error => failure tree warning (.io (.os error))
          | .ok tree => ⟨verdictCode report, "", warning, tree⟩

/-- Do what the options ask for. -/
def perform (tree : FileTree) (options : Options) : Result :=
  if options.printConfig then ⟨0, Config.starter, "", tree⟩
  else if options.listRules then listRules tree options
  else
    match options.target with
    | some target => scan tree target options
    | none => ⟨1, "", usage, tree⟩

/-- What is said about unusable arguments. Their number and order decide on the
wording, which is not fixed here. -/
def argumentMessage : String := "<argument error>"

/-- Run the program. -/
def run (tree : FileTree) (environment : Option Octets) (arguments : List Octets) :
    Result :=
  match readRequest environment arguments with
  | .error .unusable => ⟨2, "", argumentMessage, tree⟩
  | .ok .help => ⟨0, plainText (helpText environment), "", tree⟩
  | .ok .version => ⟨0, versionText, "", tree⟩
  | .ok (.perform options) => perform tree options

end CommandLine
end ScriptAudit
