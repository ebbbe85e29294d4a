import LineLang.Debugger.Basic

/-!
# Running a program

A program runs by micro-steps (`tick`). The top frame, if its routine is at its end, is rewound and
taken away; otherwise the statement that it points at is executed and its pointer moves on. The
three modes are three rules on when to pause between micro-steps (`stop?`).
-/

namespace LineLang

/-- Passes over the indented lines below the pointer, and stops on the last of them. A pointer that
is past the last statement already moves on and finds nothing to look at. -/
def Routine.skipBody (r : Routine) : Reply Routine Unit :=
  if (r.lines.length : Int) < r.pointer + 1 then .crash r.advance .noStatement
  else
    let body := (r.lines.drop (r.pointer + 1).toNat).takeWhile Text.isIndented
    .ok (r.pointAt (r.pointer + body.length)) ()

namespace Debugger

/-! ## Statements of a program -/

/-- Skips the body below the header that the top frame is on. Its function was found when the
program was loaded. -/
def skipBody (d : Debugger) : Reply Debugger Unit :=
  match d.routines.top? with
  | none => .ok d ()
  | some id =>
    (d.routines.routine id).skipBody.mapState fun r => d.onRoutines (·.modify id fun _ => r)

/-- Puts a function on the stack. -/
def call (args : List String) (d : Debugger) : Except Failure Debugger := do
  let name ← readName args[0]?
  let _ ← d.function name
  return d.onRoutines (·.push (.function name))

/-- Puts a value in its place in an ascending list. -/
def placeAscending (value : Int) : List Int → List Int
  | [] => [value]
  | other :: rest =>
    if value < other then value :: other :: rest
    else if value = other then other :: rest
    else other :: placeAscending value rest

/-- Sets a breakpoint. -/
def addBreak (args : List String) (d : Debugger) : Except Failure Debugger := do
  let position ← convertValue args[0]?
  return { d with breakpoints := placeAscending position d.breakpoints }

/-- Writes the active calls, one per line. -/
def printTrace (d : Debugger) : Debugger :=
  d.onSession (·.write
    (d.routines.trace.map fun (position, name) => toString position ++ " " ++ name))

/-- Carries out a command as a statement of a running program. A run within a run finds the same
statement under the pointer, so it has no end. -/
def perform (args : List String) (d : Debugger) : Command → Reply Debugger Unit
  | .session command =>
    .ofExcept d ((command.perform args none d.toSession).map fun s => { d with toSession := s })
  | .skipBody => d.skipBody
  | .call => .ofExcept d (d.call args)
  | .resume _ => .crash { d with lastStop := none } .endlessRun
  | .addBreak => .ofExcept d (d.addBreak args)
  | .printTrace => .ok d.printTrace ()

/-- Executes a statement of a running program. -/
def execute (line : String) (d : Debugger) : Reply Debugger Unit :=
  repertoire.dispatch perform line d

/-! ## Micro-steps -/

/-- What a micro-step did. -/
inductive Tick
  /-- Nothing was left to run. -/
  | idle
  /-- A routine had ended and its frame was taken away. -/
  | returned
  /-- A statement of a routine was executed. -/
  | executed (id : RoutineId)
  /-- The statement under the pointer failed, and the pointer is still on it. -/
  | failed (f : Failure)
  deriving DecidableEq, Repr

/-- Takes the frame of an ended routine away. With the last frame the variables go. -/
def leave (id : RoutineId) (d : Debugger) : Debugger :=
  let left := d.onRoutines fun rs => (rs.modify id Routine.rewind).pop
  if left.routines.stack.isEmpty then { left with vars := {} } else left

/-- One micro-step. -/
def tick (d : Debugger) : Debugger × Tick :=
  match d.routines.top? with
  | none => (d, .idle)
  | some id =>
    let routine := d.routines.routine id
    if routine.atEnd then (d.leave id, .returned)
    else
      match routine.statement? with
      | none => (d, .failed (.crash .noStatement))
      | some line =>
        let reply := d.execute line
        match reply.result with
        | .error f => (reply.state, .failed f)
        | .ok () => (reply.state.onRoutines (·.modify id Routine.advance), .executed id)

/-! ## Runs -/

/-- Whether a run stops after a micro-step. `depth` is the number of frames that it started with.
Stepping over disregards what happens in deeper frames. -/
def stop? (mode : RunMode) (depth : Nat) (d : Debugger) : Tick → Option StopReason
  | .idle => some .finished
  | .returned => if mode = .stepOver ∧ d.routines.depth = depth then some .returned else none
  | .executed id =>
    if mode = .stepOver ∧ d.routines.depth ≠ depth then none
    else if (d.routines.routine id).position ∈ d.breakpoints then some .breakpoint
    else if mode = .run then none
    else some .step
  | .failed _ => none

/-- Micro-steps up to the first pause, at most `fuel` of them. -/
def runFrom (mode : RunMode) (depth : Nat) : Nat → Debugger → Reply Debugger StopReason
  | 0, d => ⟨d, .error .unfinished⟩
  | fuel + 1, d =>
    match d.tick with
    | (d, .failed f) => ⟨d, .error f⟩
    | (d, t) =>
      match d.stop? mode depth t with
      | some reason => .ok d reason
      | none => runFrom mode depth fuel d

/-- Notes why a run stopped. -/
def stopped (d : Debugger) (reason : StopReason) : Debugger :=
  { d with lastStop := some reason }.onSession (·.note (.runStopped reason d.routines.depth))

/-- Runs what is on the stack. -/
def run (fuel : Nat) (mode : RunMode) (d : Debugger) : Reply Debugger StopReason :=
  let depth := d.routines.depth
  let started := { d with lastStop := none }.onSession (·.note (.runStarted mode depth))
  let reply := runFrom mode depth fuel started
  match reply.result with
  | .ok reason => .ok (reply.state.stopped reason) reason
  | .error _ => reply

/-- Runs what is on the stack, or else the loaded program from its start. -/
def start (fuel : Nat) (mode : RunMode) (d : Debugger) : Reply Debugger StopReason :=
  if d.routines.stack.isEmpty then
    match d.program? with
    | none => .fault d .noProgram
    | some id => (d.onRoutines (·.push id)).run fuel mode
  else d.run fuel mode

/-! ## Lines -/

/-- Carries out a command that was typed. -/
def performTyped (fuel : Nat) (args : List String) (d : Debugger) : Command → Reply Debugger Unit
  | .resume mode => (d.start fuel mode).void
  | command => d.perform args command

/-- Executes a statement that was typed. -/
def statement (fuel : Nat) (line : String) (d : Debugger) : Reply Debugger Unit :=
  repertoire.dispatch (performTyped fuel) line d

/-- Takes a line: as code if code was asked for, as a statement otherwise. A fault is reported. -/
def line (fuel : Nat) (line : String) (d : Debugger) : Reply Debugger LineResult :=
  (if d.phase = .waiting then d.load line else d.statement fuel line).settle
    fun f d => d.onSession (·.report line f)

end Debugger

end LineLang
