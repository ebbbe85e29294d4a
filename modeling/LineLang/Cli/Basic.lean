import LineLang.Cli.Arguments
import LineLang.Console.Basic
import LineLang.Repl
import LineLang.Text.Boxed

/-!
# The command line

`run` replays a session file, `repl` converses and `check` lists the functions of a script. Each is
a pure function of the arguments, the environment, the files and the input; what is to be written
and how the program ends is its `Report`.
-/

namespace LineLang.Cli

/-- What stands at a path. -/
inductive File
  | missing
  | directory
  | content (bytes : ByteArray)

/-- What the program finds around it. -/
structure Surroundings where
  setting? : String → Option String
  file : String → File
  input : String

/-- How the program ends. -/
inductive Ending
  | exit (code : Nat)
  /-- A file is not UTF-8. -/
  | undecodable
  /-- Markup cannot be written. -/
  | unwritable (f : Console.Fault)
  /-- The interpreter failed. -/
  | failed (f : Failure)

/-- The exit code: 1 if something went wrong on the way. -/
def Ending.code : Ending → Nat
  | exit code => code
  | undecodable | unwritable _ | failed _ => 1

/-- What the program writes, what it says aside, and how it ends. -/
structure Report where
  output : String := ""
  notices : List String := []
  ending : Ending := .exit 0

/-- The number of micro-steps that a line may take: more than can ever be counted off. -/
def patience : Nat :=
  1000000000000000000

/-- The name of the program. -/
def programName : String :=
  "Kizhi"

/-- The version of the program. -/
def programVersion : String :=
  "0.1.0"

/-- The help. -/
def helpText : String :=
  Text.stream
    ["Usage: [--version] [--help] [--log-level LEVEL] [--strict] COMMAND", "",
     "  run FILE [--immediate]   replay a session file; blank lines separate logical lines",
     "  repl [--immediate]       converse; an empty line submits the input",
     "  check FILE               list the functions defined in a script"]

/-- A usage error ends the program with code 2. -/
def refuse (e : UsageError) : Report :=
  { notices := ["Error: " ++ e.message], ending := .exit 2 }

/-- A new interpreter. -/
def newInterpreter (settings : Settings) (immediate : Bool) : Interpreter :=
  let strict := settings.strict
  if immediate then .immediate { strict } else .debugger { strict }

/-- The log as far as the level shows it; every event is of the lowest level. -/
def shownLog (settings : Settings) (i : Interpreter) : List String :=
  if settings.logLevel = "DEBUG" then i.session.log.toList.map Event.message else []

/-- Hands the text of a file to a task. -/
def withText (around : Surroundings) (path : String) (task : String → Report) : Report :=
  match around.file path with
  | .content bytes =>
    match String.fromUTF8? bytes with
    | some text => task text
    | none => { ending := .undecodable }
  | _ => refuse (.unreadableFile path)

/-- Replays a session. It ends with code 1 if a line failed. -/
def replay (settings : Settings) (immediate : Bool) (text : String) : Report :=
  let payloads := Payload.assemble (Text.fileLines text)
  let reply := (newInterpreter settings immediate).lines patience payloads
  let output := Console.stream reply.state.session.output.toList
  let log := shownLog settings reply.state
  match reply.result with
  | .error f => { output, notices := log, ending := .failed f }
  | .ok results =>
    match results.countP (!·.ok) with
    | 0 => { output, notices := log }
    | n => { output, notices := log ++ [toString n ++ " line(s) failed"], ending := .exit 1 }

/-- The lines that open a conversation. -/
def banner (immediate : Bool) : String :=
  let kind := if immediate then "interpreter" else "debugger"
  Text.stream [programName ++ " " ++ kind ++ " v" ++ programVersion,
    "Finish each input with an empty line, 'exit' to quit", ""]

/-- The prompt as it is written. -/
def promptOf (settings : Settings) : Except Console.Fault String :=
  Console.rendered (settings.prompt.getD "")

/-- Converses over the whole input. -/
def converse (settings : Settings) (immediate : Bool) (input : String) : Report :=
  match promptOf settings with
  | .error f => { output := banner immediate, ending := .unwritable f }
  | .ok prompt =>
    let screen := Repl.Screen.write ⟨newInterpreter settings immediate, {}⟩ (banner immediate)
    let reply := Repl.converse patience Console.printed prompt (Text.fileLines input) screen
    let notices := shownLog settings reply.state.interpreter
    match reply.result with
    | .error f => { output := reply.state.text, notices, ending := .failed f }
    | .ok () => { output := reply.state.text, notices }

/-- Lists the functions of a script. -/
def check (script : String) : Report :=
  let lines := Text.scriptLines script
  match (Workspace.discover Debugger.vocabulary 0 lines {}).result with
  | .error (.fault f) =>
    match Console.rendered ("[bold red]Error:[/bold red] " ++ f.message) with
    | .ok message => { output := Text.stream [message], ending := .exit 1 }
    | .error f => { ending := .unwritable f }
  | .error f => { ending := .failed f }
  | .ok found =>
    let rows := found.functions.map fun r => [r.name, toString r.offset, toString r.lines.length]
    let table := Text.Boxed.render "Functions" ["Name", "Offset", "Lines"] rows
    let summary := toString lines.length ++ " lines, " ++ toString found.main.length ++
      " top-level statements"
    { output := Text.stream (table ++ [summary]) }

/-- The settings of an invocation. -/
def settingsOf (around : Surroundings) (invocation : Invocation) : Settings :=
  (Settings.ofEnvironment fun name => (around.setting? name).map some).override invocation.overrides

/-- Carries out an invocation. -/
def perform (around : Surroundings) (invocation : Invocation) : Report :=
  let settings := settingsOf around invocation
  match invocation.task with
  | .version => { output := Text.stream [programName ++ ", version " ++ programVersion] }
  | .help => { output := helpText }
  | .run path immediate => withText around path (replay settings immediate)
  | .repl immediate => converse settings immediate around.input
  | .check path => withText around path check

/-- The whole program. -/
def report (around : Surroundings) (args : List String) : Report :=
  match readArguments args with
  | .error e => refuse e
  | .ok invocation => perform around invocation

end LineLang.Cli
