import LineLang.Argument
import LineLang.Failure
import LineLang.Record
import LineLang.Session.Event
import LineLang.Workspace

/-!
# Sessions

What every interpreter of lines keeps: its workspace, its phase, whether code was asked for, the
lines that it has written and the events that it has noted. The commands on variables and the two
brackets around code belong to every session.
-/

namespace LineLang

/-- The state that the interpreters share. With strict brackets `end set code` needs a `set code`
before it. -/
structure Session extends Workspace where
  phase : Phase := .noCode
  requested : Bool := false
  strict : Bool := false
  output : Record String := {}
  log : Record Event := {}
  deriving DecidableEq, Repr

namespace Session

/-- Notes an event. -/
def note (s : Session) (e : Event) : Session :=
  { s with log := s.log.add e }

/-- Notes several events. -/
def noteAll (s : Session) (es : List Event) : Session :=
  { s with log := s.log.addAll es }

/-- Writes lines. -/
def write (s : Session) (lines : List String) : Session :=
  { s with output := s.output.addAll lines }

/-- Enters a phase and notes the change, if it is one. -/
def enter (s : Session) (phase : Phase) : Session :=
  if s.phase = phase then s
  else { s with phase, log := s.log.add (.phaseChanged s.phase phase) }

/-- Asks for code: the next line is taken as code. -/
def requestCode (s : Session) : Session :=
  { s with requested := true }.enter .waiting

/-- Closes the bracket around code. -/
def endCode (s : Session) : Except Fault Session :=
  if s.strict && !s.requested then .error .unrequestedCode
  else .ok ({ s with requested := false }.enter .ready)

/-- Reports the fault of a line: one event and one line of output. -/
def report (line : String) (f : Fault) (s : Session) : Session :=
  (s.note (.lineFailed f.kind line)).write [f.message]

end Session

/-! ## Commands of every session -/

/-- Commands that act on the variables. -/
inductive VariableCommand
  | set
  | sub
  | print
  | rem
  | printMem
  deriving DecidableEq, Repr

namespace VariableCommand

/-- The name of a command. -/
def name : VariableCommand → String
  | set => "set"
  | sub => "sub"
  | print => "print"
  | rem => "rem"
  | printMem => "print mem"

/-- The variables after a command, and the lines that it writes. Arguments beyond those that a
command reads are ignored. -/
def perform (args : List String) (position : Option Int) (vs : Variables) :
    VariableCommand → Except Failure (Variables × List String)
  | set => do
    let name ← readName args[0]?
    let value ← convertValue args[1]?
    return (vs.write name value position, [])
  | sub => do
    let name ← readName args[0]?
    let old ← vs.read name
    let value ← convertValue args[1]?
    return (vs.write name (old - value) position, [])
  | print => do
    let name ← readName args[0]?
    let value ← vs.read name
    return (vs, [toString value])
  | rem => do
    let name ← readName args[0]?
    let _ ← vs.read name
    return (vs.erase name, [])
  | printMem => return (vs, vs.listing)

end VariableCommand

/-- Commands that every session understands. -/
inductive SessionCommand
  | onVariables (command : VariableCommand)
  | setCode
  | endSetCode
  deriving DecidableEq, Repr

namespace SessionCommand

/-- The name of a command. -/
def name : SessionCommand → String
  | onVariables command => command.name
  | setCode => "set code"
  | endSetCode => "end set code"

/-- The session after a command; `outside` is the position of statements outside every frame. -/
def perform (args : List String) (outside : Option Int) (s : Session) :
    SessionCommand → Except Failure Session
  | onVariables command => do
    let (vars, lines) ← command.perform args (s.positionOr outside) s.vars
    return { s with vars }.write lines
  | setCode => return s.requestCode
  | endSetCode => s.endCode

end SessionCommand

end LineLang
