import LineLang.Outline
import LineLang.Repertoire
import LineLang.Session.Basic

/-!
# The immediate interpreter

Statements act the moment they are typed. After `def` the indented lines that follow are collected
as the body of a function, and `call` carries out a body on the spot. A function that is running
cannot be called again, so calls nest at most as deep as there are functions.
-/

namespace LineLang

/-- A session with the number of the last line taken, counted from zero, and the name of the
function whose body is being collected. -/
structure Immediate extends Session where
  position : Int := -1
  opened : Option String := none
  deriving DecidableEq, Repr

namespace Immediate

/-- The commands of the immediate interpreter. -/
inductive Command
  | session (command : SessionCommand)
  | define
  | call
  | idle
  deriving DecidableEq, Repr

namespace Command

/-- The name of a command. `run` is understood and does nothing. -/
def name : Command → String
  | session command => command.name
  | define => Outline.header
  | call => "call"
  | idle => "run"

/-- All commands, in the order in which they are listed. -/
def all : List Command :=
  [session (.onVariables .set), session (.onVariables .sub), session (.onVariables .print),
   session (.onVariables .rem), define, call, session .setCode, session .endSetCode, idle,
   session (.onVariables .printMem)]

theorem mem_all (c : Command) : c ∈ all := by
  cases c with
  | session c =>
    cases c with
    | onVariables c => cases c <;> decide
    | setCode | endSetCode => decide
  | define | call | idle => decide

end Command

/-- The commands with their names. -/
abbrev repertoire : Repertoire Command where
  all := Command.all
  name := Command.name
  complete := Command.mem_all
  distinct := by decide +kernel

/-- The names of the immediate interpreter's commands. -/
def vocabulary : Vocabulary :=
  repertoire.vocabulary

/-- Changes the part that is shared with other sessions. -/
def onSession (i : Immediate) (change : Session → Session) : Immediate :=
  { i with toSession := change i.toSession }

/-- Changes the routines and the stack. -/
def onRoutines (i : Immediate) (change : Routines RoutineId → Routines RoutineId) : Immediate :=
  { i with routines := change i.routines }

/-! ## Statements -/

/-- Opens a function: the indented lines that follow become its body. -/
def define (args : List String) (i : Immediate) : Except Failure Immediate := do
  let name ← readName args[0]?
  let workspace ← i.toWorkspace.define { name, offset := i.position + 1 }
  return { i with toWorkspace := workspace, opened := some name }.onSession
    (·.note (.bodyOpened name))

/-- Carries out the statements of a body in turn with `act`, the pointer on each of them, up to the
first failure. -/
def runBody (act : String → Immediate → Reply Immediate Unit) (id : RoutineId) :
    Nat → List String → Immediate → Reply Immediate Unit
  | _, [], i => .ok i ()
  | pointer, line :: rest, i =>
    (act line (i.onRoutines (·.modify id (·.pointAt pointer)))).andThen
      (runBody act id (pointer + 1) rest)

/-- Carries out a function with `act` for its statements. Its frame is taken away and its pointer
put back whether or not a statement failed. -/
def call (act : String → Immediate → Reply Immediate Unit) (args : List String) (i : Immediate) :
    Reply Immediate Unit :=
  match readName args[0]? with
  | .error f => .fault i f
  | .ok name =>
    match i.function name with
    | .error f => .fault i f
    | .ok routine =>
      if .function name ∈ i.routines.stack then .fault i (.recursiveCall name)
      else
        let entered := i.onRoutines (·.push (.function name))
        (runBody act (.function name) 0 routine.lines entered).mapState
          (·.onRoutines fun rs => (rs.modify (.function name) Routine.rewind).pop)

/-- Carries out a command, with `act` for the statements of a called function. -/
def perform (act : String → Immediate → Reply Immediate Unit) (args : List String) (i : Immediate) :
    Command → Reply Immediate Unit
  | .session command =>
    .ofExcept i ((command.perform args (some i.position) i.toSession).map
      fun s => { i with toSession := s })
  | .define => .ofExcept i (i.define args)
  | .call => i.call act args
  | .idle => .ok i ()

/-- Finds the command of a line and carries it out, with `act` for the statements of a called
function. -/
def dispatch (act : String → Immediate → Reply Immediate Unit) (line : String) (i : Immediate) :
    Reply Immediate Unit :=
  repertoire.dispatch (perform act) line i

/-- Takes a line into the body that is being collected, or closes the body and carries the line out
with `act`. While a function runs, nothing is collected. -/
def collectOr (act : String → Immediate → Reply Immediate Unit) (line : String) (i : Immediate) :
    Reply Immediate Unit :=
  if i.routines.stack.isEmpty then
    match i.opened, Text.dedent? line with
    | some name, some body => .ok (i.onRoutines (·.modify (.function name) (·.append body))) ()
    | _, _ => act line { i with opened := none }
  else act line i

/-- Executes a statement in which calls nest less than `depth` deep. -/
def execute : Nat → String → Immediate → Reply Immediate Unit
  | 0, _, i => ⟨i, .error .unfinished⟩
  | depth + 1, line, i => i.collectOr (dispatch (execute depth)) line

/-- Executes a statement. Functions that a running body defines are still empty, so the number of
functions known before bounds the nesting. -/
def statement (line : String) (i : Immediate) : Reply Immediate Unit :=
  execute (i.functions.length + 1) line i

/-- Carries out a command that is not written as a statement. -/
def performDirectly (args : List String) (i : Immediate) (command : Command) :
    Reply Immediate Unit :=
  i.perform (execute i.functions.length) args command

/-! ## Lines -/

/-- Counts a line. -/
def count (i : Immediate) : Immediate :=
  { i with position := i.position + 1 }

/-- Executes lines in turn up to the first failure. -/
def statements : List String → Immediate → Reply Immediate Unit
  | [], i => .ok i ()
  | line :: rest, i => (i.count.statement line).andThen (statements rest)

/-- Carries out the lines of a script as if they had been typed, and ends the wait for code. -/
def load (payload : String) (i : Immediate) : Reply Immediate Unit :=
  (statements (Text.scriptLines payload) i).mapState fun i =>
    { i with opened := none }.onSession (·.enter .ready)

/-- Takes a line: as code if code was asked for, as a statement otherwise. A fault is reported. -/
def line (line : String) (i : Immediate) : Reply Immediate LineResult :=
  (if i.phase = .waiting then i.load line else i.count.statement line).settle
    fun f i => i.onSession (·.report line f)

end Immediate

end LineLang
