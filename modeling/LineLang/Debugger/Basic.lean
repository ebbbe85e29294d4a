import LineLang.Discovery
import LineLang.Repertoire
import LineLang.Session.Basic

/-!
# The debugger: state, commands and loading

A debugger keeps a program that can be run statement by statement. A program that is loaded while
another one is paused becomes the program of the next start; the paused one stays on the stack until
it has ended.
-/

namespace LineLang

/-- A session with breakpoints, in ascending order, the number of programs loaded so far, and the
reason why the last run stopped. -/
structure Debugger extends Session where
  breakpoints : List Int := []
  loads : Nat := 0
  lastStop : Option StopReason := none
  deriving DecidableEq, Repr

namespace Debugger

/-! ## Commands -/

/-- The commands of a debugger. -/
inductive Command
  | session (command : SessionCommand)
  | skipBody
  | call
  | resume (mode : RunMode)
  | addBreak
  | printTrace
  deriving DecidableEq, Repr

namespace Command

/-- The name of a command. -/
def name : Command → String
  | session command => command.name
  | skipBody => Outline.header
  | call => "call"
  | resume .run => "run"
  | resume .step => "step"
  | resume .stepOver => "step over"
  | addBreak => "add break"
  | printTrace => "print trace"

/-- All commands, in the order in which they are listed. -/
def all : List Command :=
  [session (.onVariables .set), session (.onVariables .sub), session (.onVariables .print),
   session (.onVariables .rem), skipBody, call, session .setCode, session .endSetCode, resume .run,
   addBreak, resume .step, resume .stepOver, session (.onVariables .printMem), printTrace]

theorem mem_all (c : Command) : c ∈ all := by
  cases c with
  | session c =>
    cases c with
    | onVariables c => cases c <;> decide
    | setCode | endSetCode => decide
  | resume mode => cases mode <;> decide
  | skipBody | call | addBreak | printTrace => decide

end Command

/-- The commands with their names. -/
abbrev repertoire : Repertoire Command where
  all := Command.all
  name := Command.name
  complete := Command.mem_all
  distinct := by decide +kernel

/-- The names of a debugger's commands. -/
def vocabulary : Vocabulary :=
  repertoire.vocabulary

/-! ## Parts of the state -/

/-- Changes the part that is shared with other sessions. -/
def onSession (d : Debugger) (change : Session → Session) : Debugger :=
  { d with toSession := change d.toSession }

/-- Changes the routines and the stack. -/
def onRoutines (d : Debugger) (change : Routines RoutineId → Routines RoutineId) : Debugger :=
  { d with routines := change d.routines }

/-- The program that the next start on an empty stack runs. -/
def program? (d : Debugger) : Option RoutineId :=
  if d.loads = 0 then none else some (.program (d.loads - 1))

/-! ## Loading -/

/-- The name of every program. -/
def programName : String :=
  "main"

/-- Makes lines the program of the next start. -/
def install (d : Debugger) (lines : List String) : Debugger :=
  { d with
    routines := d.routines.register (.program d.loads) { name := programName, lines }
    loads := d.loads + 1 }

/-- Ends the wait for code. -/
def closeCode (d : Debugger) : Debugger :=
  d.onSession (·.enter (if d.loads = 0 then .noCode else .ready))

/-- The events of a script that was loaded. -/
def loadEvents (lines : List String) (functions : List Routine) : List Event :=
  functions.map (fun r => .functionFound r.name r.offset r.lines.length) ++
    [.programLoaded lines.length (functions.map Routine.name)]

/-- Loads a script. Functions that were found before a fault stay defined, and the program before
it is kept. -/
def load (payload : String) (d : Debugger) : Reply Debugger Unit :=
  let lines := Text.scriptLines payload
  let discovered := d.toWorkspace.discover vocabulary 0 lines
  let defined := { d with toWorkspace := discovered.state }
  match discovered.result with
  | .error f => ⟨defined.closeCode, .error f⟩
  | .ok found =>
    .ok ((defined.install lines).onSession
      (·.noteAll (loadEvents lines found.functions))).closeCode ()

end Debugger

end LineLang
