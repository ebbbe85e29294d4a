import LineLang.Fault
import LineLang.Text.Quoted

/-!
# Phases, modes and events

The words in which a session speaks about itself: the phase that it is in, how a program is run and
why a run stopped, and the events that it notes in its log.
-/

namespace LineLang

/-- Whether a session has code, or takes the next line as code. -/
inductive Phase
  | noCode
  | waiting
  | ready
  deriving DecidableEq, Repr

/-- The word for a phase. -/
def Phase.label : Phase → String
  | noCode => "NO_CODE"
  | waiting => "WAITING_FOR_CODE"
  | ready => "CODE_ACQUIRED"

/-- How far a program is run: to the end, for one statement, or for one statement of the current
frame. -/
inductive RunMode
  | run
  | step
  | stepOver
  deriving DecidableEq, Repr

/-- The word for a mode. -/
def RunMode.label : RunMode → String
  | run => "RUN"
  | step => "STEP"
  | stepOver => "STEP_OVER"

/-- Why a run stopped: at a breakpoint, after its statement, because a call returned to the frame it
was made from, or because the stack is empty. -/
inductive StopReason
  | breakpoint
  | step
  | returned
  | finished
  deriving DecidableEq, Repr

/-- The word for a reason. -/
def StopReason.label : StopReason → String
  | breakpoint => "BREAKPOINT"
  | step => "STEP"
  | returned => "RETURNED"
  | finished => "FINISHED"

/-- What a session notes in its log. -/
inductive Event
  | phaseChanged (before after : Phase)
  | lineFailed (kind : FaultKind) (line : String)
  | functionFound (name : String) (offset : Int) (size : Nat)
  | programLoaded (size : Nat) (functions : List String)
  | runStarted (mode : RunMode) (depth : Nat)
  | runStopped (reason : StopReason) (depth : Nat)
  | bodyOpened (name : String)
  deriving DecidableEq, Repr

/-- The text of an event. -/
def Event.message : Event → String
  | phaseChanged before after => "state " ++ before.label ++ " -> " ++ after.label
  | lineFailed kind line => "line failed (" ++ kind.label ++ "): " ++ Text.quoted line
  | functionFound name offset size =>
    "discovered function " ++ name ++ " at " ++ toString offset ++
      " (" ++ toString size ++ " lines)"
  | programLoaded size functions =>
    "acquired " ++ toString size ++ " lines, functions: " ++
      (if functions.isEmpty then "-" else ", ".intercalate functions)
  | runStarted mode depth => "run loop: mode=" ++ mode.label ++ " depth=" ++ toString depth
  | runStopped reason depth =>
    "run loop stopped: " ++ reason.label ++ " (depth=" ++ toString depth ++ ")"
  | bodyOpened name => "collecting body of " ++ name

end LineLang
