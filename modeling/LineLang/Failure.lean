import LineLang.Fault

/-!
# Failures and replies

An operation ends with a result or with a failure, and leaves a state behind in both cases. A fault
is the user's and is reported; a crash is a breach of the interpreter's own rules and ends the
session; a bounded run that was not over within its bound is unfinished.
-/

namespace LineLang

/-- Breaches of the interpreter's own rules. -/
inductive Crash
  /-- A routine points at no statement. -/
  | noStatement
  /-- A frame is taken from an empty stack. -/
  | emptyStack
  /-- A table has no entry at a key. -/
  | noEntry (key : String)
  /-- The operation has no implementation here. -/
  | unimplemented
  /-- The interpreter runs no programs. -/
  | noRuns
  /-- The interpreter counts no lines. -/
  | noLineCount
  /-- A running program asks for another run, which meets the same statement again and again. -/
  | endlessRun
  /-- A number has more digits than are converted. -/
  | tooManyDigits (count : Nat)
  /-- A pointer does not fit into a machine word. -/
  | pointerTooLarge
  deriving DecidableEq, Repr

/-- Why an operation did not end with a result. -/
inductive Failure
  | fault (f : Fault)
  | crash (c : Crash)
  | unfinished
  deriving DecidableEq, Repr

/-- A fault is a failure. -/
instance : MonadLift (Except Fault) (Except Failure) where
  monadLift r := r.mapError .fault

/-- What an operation leaves: the state after it, and its result or failure. -/
structure Reply (σ α : Type) where
  state : σ
  result : Except Failure α

/-- How a line ended that did not crash. -/
inductive LineResult
  | success
  | failure (f : Fault)
  deriving DecidableEq, Repr

namespace LineResult

/-- Whether the line was carried out. -/
def ok : LineResult → Bool
  | success => true
  | failure _ => false

/-- The kind of fault in the line. -/
def kind? : LineResult → Option FaultKind
  | success => none
  | failure f => some f.kind

/-- The message about the line; empty if it was carried out. -/
def message : LineResult → String
  | success => ""
  | failure f => f.message

end LineResult

namespace Reply

variable {σ τ α β : Type}

/-- Replies with a result. -/
def ok (s : σ) (a : α) : Reply σ α :=
  ⟨s, .ok a⟩

/-- Replies with a fault. -/
def fault (s : σ) (f : Fault) : Reply σ α :=
  ⟨s, .error (.fault f)⟩

/-- Replies with a crash. -/
def crash (s : σ) (c : Crash) : Reply σ α :=
  ⟨s, .error (.crash c)⟩

/-- Replies with the changed state, or with the failure that left the state `s` as it was. -/
def ofExcept (s : σ) : Except Failure σ → Reply σ Unit
  | .ok changed => .ok changed ()
  | .error f => ⟨s, .error f⟩

/-- Carries the state over into another one. -/
def mapState (f : σ → τ) (r : Reply σ α) : Reply τ α :=
  ⟨f r.state, r.result⟩

/-- Drops the result. -/
def void (r : Reply σ α) : Reply σ Unit :=
  ⟨r.state, r.result.map fun _ => ()⟩

/-- Goes on with the result and the state if there was no failure. -/
def bind (r : Reply σ α) (next : α → σ → Reply σ β) : Reply σ β :=
  match r.result with
  | .ok a => next a r.state
  | .error e => ⟨r.state, .error e⟩

/-- Goes on with the state if there was no failure. -/
def andThen (r : Reply σ Unit) (next : σ → Reply σ α) : Reply σ α :=
  r.bind fun _ => next

/-- Turns a fault into the result of a line, after `report` has noted it in the state. -/
def settle (report : Fault → σ → σ) (r : Reply σ Unit) : Reply σ LineResult :=
  match r.result with
  | .ok () => ⟨r.state, .ok .success⟩
  | .error (.fault f) => ⟨report f r.state, .ok (.failure f)⟩
  | .error e => ⟨r.state, .error e⟩

/-- Carries out an operation for each element in turn, up to the first failure, and collects the
results. -/
def forEach (act : β → σ → Reply σ α) : List β → σ → Reply σ (List α)
  | [], s => .ok s []
  | b :: bs, s =>
    let r := act b s
    match r.result with
    | .error e => ⟨r.state, .error e⟩
    | .ok a =>
      let rest := forEach act bs r.state
      ⟨rest.state, rest.result.map (a :: ·)⟩

end Reply

end LineLang
