import LineLang.Cli.Basic

/-!
# The executable

Reads what the pure command line needs and writes its report. A conversation is held line by line,
so that each answer is seen before the next line is typed, and the screen is wiped in between.
-/

namespace LineLang.Cli

/-- What stands at a path; what cannot be read counts as missing. -/
def readPath (path : String) : IO File := do
  try
    return .content (← IO.FS.readBinFile path)
  catch _ =>
    return .missing

/-- The values of the environment variables that hold settings. -/
def readSettings : IO (String → Option String) := do
  let names := [Settings.levelVariable, Settings.promptVariable, Settings.strictVariable]
  let values ← names.mapM fun name => IO.getEnv name
  return fun name => ((names.zip values).lookup name).join

/-- Writes a text at once. -/
def display (text : String) : IO Unit := do
  let out ← IO.getStdout
  out.putStr text
  out.flush

/-- Writes a report and gives the exit code. -/
def publish (r : Report) : IO UInt32 := do
  display r.output
  r.notices.forM fun notice => IO.eprintln notice
  return r.ending.code.toUInt32

/-- Writes what is on the screen of a conversation, and the log, and wipes both. -/
def publishTurn (settings : Settings) (c : Repl.Conversation) : IO Repl.Conversation := do
  display c.screen.text
  (shownLog settings c.screen.interpreter).forM fun notice => IO.eprintln notice
  return c.wiped

/-- The lines that are typed next. There are none at the end of the input. -/
def readLines : IO (List String) := do
  return Text.fileLines (← (← IO.getStdin).getLine)

/-- Goes on with a conversation. `queue` holds lines that were read and not yet taken. -/
partial def talk (settings : Settings) (prompt : String) (c : Repl.Conversation)
    (queue : List String) : IO UInt32 := do
  if c.pending.isNone then
    return 0
  let lines ← if queue.isEmpty then readLines else pure queue
  match lines with
  | [] =>
    discard (publishTurn settings c.finish)
    return 0
  | line :: queue =>
    let reply := c.take patience Console.printed prompt line
    let next ← publishTurn settings reply.state
    match reply.result with
    | .ok () => talk settings prompt next queue
    | .error _ => return 1

/-- Carries out an invocation. -/
def execute (invocation : Invocation) : IO UInt32 := do
  let setting? ← readSettings
  match invocation.task with
  | .repl immediate =>
    let settings := settingsOf ⟨setting?, fun _ => .missing, ""⟩ invocation
    display (banner immediate)
    match promptOf settings with
    | .error _ => return 1
    | .ok prompt =>
      let c ← publishTurn settings (.start prompt ⟨newInterpreter settings immediate, {}⟩)
      talk settings prompt c []
  | .run path _ | .check path =>
    let file ← readPath path
    publish (perform ⟨setting?, fun _ => file, ""⟩ invocation)
  | .version | .help => publish (perform ⟨setting?, fun _ => .missing, ""⟩ invocation)

end LineLang.Cli

/-- Reads the arguments and carries out what they ask for. -/
def main (args : List String) : IO UInt32 :=
  match LineLang.Cli.readArguments args with
  | .error e => LineLang.Cli.publish (LineLang.Cli.refuse e)
  | .ok invocation => LineLang.Cli.execute invocation
