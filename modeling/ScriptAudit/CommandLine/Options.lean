import ScriptAudit.Path

/-!
# Command line options

The arguments of the program are read from left to right. A request for help or for
the version takes effect where it stands; whatever is wrong in front of it takes
effect first.
-/

namespace ScriptAudit
namespace CommandLine

open Text (Octets)

/-- The options of the program. -/
structure Options where
  /-- The skill to scan. -/
  target : Option Path := none
  config : Option Path := none
  format : Option String := none
  /-- The file that takes the report instead of the standard output. -/
  output : Option Path := none
  listRules : Bool := false
  printConfig : Bool := false
  deriving Repr, DecidableEq

/-- What the arguments ask for. -/
inductive Request
  | help
  | version
  | perform (options : Options)
  deriving Repr, DecidableEq

/-- Arguments that make no sense. -/
inductive ArgumentError
  | unusable
  deriving Repr, DecidableEq

/-- An option that takes a value. -/
inductive Setting
  | config
  | format
  | output
  deriving Repr, DecidableEq

/-- An option without a value. -/
inductive Switch
  | listRules
  | printConfig
  | help
  | version
  deriving Repr, DecidableEq

/-- An option of either kind. -/
inductive Flag
  | setting (setting : Setting)
  | switch (switch : Switch)
  deriving Repr, DecidableEq

/-- The options by their long names. -/
def longNames : List (String × Flag) :=
  [("config", .setting .config), ("format", .setting .format),
    ("output", .setting .output), ("list-rules", .switch .listRules),
    ("print-config", .switch .printConfig), ("help", .switch .help),
    ("version", .switch .version)]

/-- The options by their short names. -/
def shortNames : List (String × Flag) :=
  [("c", .setting .config), ("f", .setting .format), ("o", .setting .output),
    ("h", .switch .help), ("V", .switch .version)]

/-- The option that has a name. -/
def lookup (names : List (String × Flag)) (name : Octets) : Option Flag :=
  (names.find? fun known => Path.ofString known.1 == name).map (·.2)

/-- Give an option its value. No option may be given twice, and only the format may
be empty. -/
def Options.set? (options : Options) (value : Octets) : Setting → Option Options
  | .config =>
      if options.config.isSome || value.isEmpty then none
      else some { options with config := some value }
  | .output =>
      if options.output.isSome || value.isEmpty then none
      else some { options with output := some value }
  | .format =>
      if options.format.isSome then none
      else
        (Text.decode? value).map fun chars =>
          { options with format := some (String.ofList chars) }

/-- Take a path that stands alone. There may only be one, and it may not be
empty. -/
def Options.setTarget? (options : Options) (value : Octets) : Option Options :=
  if options.target.isSome || value.isEmpty then none
  else some { options with target := some value }

/-- The octet that starts an option. -/
def dash : UInt8 := 0x2D

/-- The octet between an option and its value. -/
def equals : UInt8 := 0x3D

/-- Whether an argument can be the value of the option in front of it. -/
def isValue (argument : Octets) : Bool :=
  argument.head? != some dash || argument = [dash]

/-- Take all arguments as paths that stand alone. -/
def readTargets? (options : Options) : List Octets → Option Options
  | [] => some options
  | value :: rest =>
      match options.setTarget? value with
      | some options => readTargets? options rest
      | none => none

/-- Split a long option at the sign in front of its value. -/
def splitValue (argument : Octets) : Octets × Option Octets :=
  match argument.span (· != equals) with
  | (name, _ :: value) => (name, some value)
  | (name, []) => (name, none)

/-- The value that is attached to a short option. -/
def attachedValue (behind : Octets) : Option Octets :=
  match behind with
  | [] => none
  | first :: rest => some (if first = equals then rest else behind)

/-- The effect of an option on the arguments that follow. -/
inductive Effect
  /-- The option is complete. -/
  | continue (options : Options)
  /-- The next argument is the value of the option. -/
  | expect (setting : Setting)
  /-- The arguments behind the option do not matter. -/
  | stop (request : Request)
  | fail

/-- Take a long option. -/
def readLong (options : Options) (argument : Octets) : Effect :=
  let (name, value) := splitValue argument
  match lookup longNames name, value with
  | some (.setting setting), some value =>
      match options.set? value setting with
      | some options => .continue options
      | none => .fail
  | some (.setting setting), none => .expect setting
  | some (.switch .help), none => .stop .help
  | some (.switch .version), none => .stop .version
  | some (.switch .listRules), none =>
      if options.listRules then .fail else .continue { options with listRules := true }
  | some (.switch .printConfig), none =>
      if options.printConfig then .fail
      else .continue { options with printConfig := true }
  | some (.switch _), some _ => .fail
  | none, _ => .fail

/-- Take the first of a cluster of short options. The only ones that do not take the
rest as their value end the reading. -/
def readShort (options : Options) : Octets → Effect
  | [] => .fail
  | name :: behind =>
      match lookup shortNames [name] with
      | some (.setting setting) =>
          match attachedValue behind with
          | some value =>
              match options.set? value setting with
              | some options => .continue options
              | none => .fail
          | none => .expect setting
      | some (.switch .help) => .stop .help
      | some (.switch .version) => .stop .version
      | _ => .fail

/-- Take one argument. -/
def readArgument (options : Options) (argument : Octets) : Effect :=
  match argument with
  | first :: second :: behind =>
      if first = dash then
        if second = dash then readLong options behind
        else readShort options (second :: behind)
      else target options argument
  | argument => target options argument
where
  /-- Take a path. -/
  target (options : Options) (argument : Octets) : Effect :=
    match options.setTarget? argument with
    | some options => .continue options
    | none => .fail

/-- Read the arguments of the program. -/
def readArguments (options : Options) : List Octets → Except ArgumentError Request
  | [] => .ok (.perform options)
  | argument :: rest =>
      if argument = [dash, dash] then
        match readTargets? options rest with
        | some options => .ok (.perform options)
        | none => .error .unusable
      else
        match readArgument options argument, rest with
        | .continue options, rest => readArguments options rest
        | .expect setting, value :: rest =>
            if isValue value then
              match options.set? value setting with
              | some options => readArguments options rest
              | none => .error .unusable
            else .error .unusable
        | .expect _, [] => .error .unusable
        | .stop request, _ => .ok request
        | .fail, _ => .error .unusable

/-- Read the arguments, and take the configuration file from the environment when
they name none. -/
def readRequest (environment : Option Octets) (arguments : List Octets) :
    Except ArgumentError Request :=
  match readArguments {} arguments with
  | .ok (.perform options) =>
      match options.config, environment with
      | none, some value =>
          if value.isEmpty then .error .unusable
          else .ok (.perform { options with config := some value })
      | _, _ => .ok (.perform options)
  | result => result

end CommandLine
end ScriptAudit
