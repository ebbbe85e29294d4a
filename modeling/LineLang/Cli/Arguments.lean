import LineLang.Settings

/-!
# Arguments of the command line

Options of the program stand before the name of the task; options of a task stand before or after
its file. `--` ends the options. Options are read first, so an unknown one is refused before
anything else is looked at.
-/

namespace LineLang.Cli

/-- What the program is asked to do. -/
inductive Task
  | version
  | help
  | run (path : String) (immediate : Bool)
  | repl (immediate : Bool)
  | check (path : String)
  deriving DecidableEq, Repr

/-- A task and the settings given for it. -/
structure Invocation where
  task : Task
  overrides : Settings.Overrides := {}

/-- What can be wrong with the arguments. -/
inductive UsageError
  | unknownOption (option : String)
  | missingValue (option : String)
  | unexpectedValue (option : String)
  | unknownLevel (level : String)
  | missingTask
  | unknownTask (task : String)
  | missingFile
  | extraArgument (argument : String)
  | unreadableFile (path : String)
  deriving DecidableEq, Repr

/-- The line that reports a usage error. -/
def UsageError.message : UsageError → String
  | unknownOption option => "No such option: " ++ option
  | missingValue option => "Option " ++ option ++ " requires an argument."
  | unexpectedValue option => "Option " ++ option ++ " does not take a value."
  | unknownLevel level => "Invalid value for --log-level: " ++ level
  | missingTask => "Missing command."
  | unknownTask task => "No such command: " ++ task
  | missingFile => "Missing argument FILE."
  | extraArgument argument => "Got unexpected extra argument: " ++ argument
  | unreadableFile path => "Invalid value for FILE: " ++ path

/-! ## Options -/

/-- An option that was given, with its value if it takes one. -/
structure Given where
  name : String
  value : Option String := none
  deriving DecidableEq, Repr

/-- An argument is an option if it begins with a hyphen and goes on. -/
def isOption (argument : String) : Bool :=
  match argument.toList with
  | '-' :: _ :: _ => true
  | _ => false

/-- The name of an option and the value after its equals sign. -/
def splitOption (argument : String) : Given :=
  let cs := argument.toList
  let name := String.ofList (cs.takeWhile (· != '='))
  match cs.dropWhile (· != '=') with
  | [] => { name }
  | _ :: value => { name, value := some (String.ofList value) }

/-- The options and the other arguments. `takesValue?` knows the options and whether they take a
value. Unless `mixed`, the first other argument ends the options. -/
def readOptions (takesValue? : String → Option Bool) (mixed : Bool) :
    List String → Except UsageError (List Given × List String)
  | [] => .ok ([], [])
  | argument :: rest =>
    if argument = "--" then .ok ([], rest)
    else if isOption argument then
      let given := splitOption argument
      match takesValue? given.name, given.value with
      | none, _ => .error (.unknownOption given.name)
      | some false, some _ => .error (.unexpectedValue given.name)
      | some true, none =>
        match rest with
        | [] => .error (.missingValue given.name)
        | value :: rest =>
          (readOptions takesValue? mixed rest).map fun (options, others) =>
            ({ given with value := some value } :: options, others)
      | _, _ =>
        (readOptions takesValue? mixed rest).map fun (options, others) => (given :: options, others)
    else if mixed then
      (readOptions takesValue? mixed rest).map fun (options, others) =>
        (options, argument :: others)
    else .ok ([], argument :: rest)

/-- The value of the last option of a name. -/
def lastValue? (name : String) (options : List Given) : Option String :=
  (options.reverse.find? (·.name = name)).bind Given.value

/-! ## Tasks -/

/-- The options of the program. -/
def programOptions : String → Option Bool
  | "--version" | "--help" | "--strict" => some false
  | "--log-level" => some true
  | _ => none

/-- The options of a task. -/
def taskOptions (canBeImmediate : Bool) : String → Option Bool
  | "--help" => some false
  | "--immediate" => if canBeImmediate then some false else none
  | _ => none

/-- The arguments of a task that reads one file. -/
def readFile (canBeImmediate : Bool) (task : String → Bool → Task) (args : List String) :
    Except UsageError Task := do
  let (options, others) ← readOptions (taskOptions canBeImmediate) true args
  if options.any (·.name = "--help") then return .help
  match others with
  | [] => .error .missingFile
  | [path] => return task path (options.any (·.name = "--immediate"))
  | _ :: extra :: _ => .error (.extraArgument extra)

/-- The arguments of a conversation. -/
def readRepl (args : List String) : Except UsageError Task := do
  let (options, others) ← readOptions (taskOptions true) true args
  if options.any (·.name = "--help") then return .help
  match others with
  | [] => return .repl (options.any (·.name = "--immediate"))
  | extra :: _ => .error (.extraArgument extra)

/-- The version and the help are given without a look at the rest. -/
def immediateTask? (options : List Given) : Option Task :=
  options.findSome? fun given =>
    match given.name with
    | "--version" => some .version
    | "--help" => some .help
    | _ => none

/-- The arguments from a name on that is no task: they are read once more as options of the
program, which may ask for the version or the help. -/
def readUnknown (name : String) (args : List String) : Except UsageError Task := do
  let (options, _) ← readOptions programOptions false (name :: args)
  match immediateTask? options with
  | some task => return task
  | none => .error (.unknownTask name)

/-- The task of a name, with its arguments. -/
def readTask : List String → Except UsageError Task
  | [] => .error .missingTask
  | "run" :: args => readFile true .run args
  | "repl" :: args => readRepl args
  | "check" :: args => readFile false (fun path _ => .check path) args
  | name :: args => readUnknown name args

/-- A log level in either case. -/
def readLevel (level : String) : Except UsageError String :=
  match Settings.logLevels.find? fun known => Text.smalls known = Text.smalls level with
  | some known => .ok known
  | none => .error (.unknownLevel level)

/-- Reads the arguments of the command line. -/
def readArguments (args : List String) : Except UsageError Invocation := do
  let (options, others) ← readOptions programOptions false args
  match immediateTask? options with
  | some task => return { task }
  | none =>
    let level ← (lastValue? "--log-level" options).mapM readLevel
    let task ← readTask others
    let strict := if options.any (·.name = "--strict") then some true else none
    return { task, overrides := { logLevel := level, strict } }

end LineLang.Cli
