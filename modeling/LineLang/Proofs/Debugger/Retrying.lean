import LineLang.Proofs.Debugger.Passage
import Mathlib.Control.Monad.Basic

/-!
# A fault in the middle of a run is stable

A statement that is faulty is refused before it changes anything, and the pointer moves on only
after a statement is done. So a run that meets a faulty statement leaves the state in which it came
to the statement (`Halted`), and a start from there, in whatever mode, meets the same statement with
the same fault. Nothing but the log can tell how often this was tried (`fault_is_stable`).
-/

namespace LineLang

namespace Debugger

variable {d d' e : Debugger} {mode : RunMode} {depth : Nat} {text : String} {f : Fault} {o : Outcome}

/-! ## Faulty statements -/

/-- A statement that is faulty changes nothing. -/
theorem execute_of_fault (faulty : (d.execute text).result = .error (.fault f)) :
    d.execute text = .fault d f := by
  have effect := execute_effect d text
  generalize d.execute text = reply at effect faulty
  cases effect with
  | refuse f' =>
    cases faulty
    rfl
  | skipBody args parsed =>
    -- Passing over a body can only go astray, which is no fault.
    unfold Debugger.skipBody Routine.skipBody at faulty
    split at faulty
    · cases faulty
    · split at faulty <;> cases faulty
  | _ => cases faulty

/-- The pointer of the top frame is on a statement with the fault, which is refused. -/
structure Halted (d : Debugger) (f : Fault) : Prop where
  tick : d.tick = (d, .failed (.fault f))
  frame : ∃ id rest line, d.routines.stack = id :: rest ∧
    (d.routines.routine id).atEnd = false ∧ (d.routines.routine id).statement? = some line ∧
    d.execute line = .fault d f

/-- A micro-step fails with a fault only if it leaves everything as it is. -/
theorem halted_of_tick (tick : d.tick = (d', .failed (.fault f))) : d' = d ∧ Halted d f := by
  have moves := tick ▸ tick_moves d
  cases moves with
  | fail id rest line f' stack inside pending failed =>
    have refused := execute_of_fault failed
    have same : (d.execute line).state = d := by rw [refused]; rfl
    rw [same] at tick
    exact ⟨same, tick, id, rest, line, stack, inside, pending, refused⟩

namespace Halted

/-- Nothing that a statement cannot read has to do with the fault. -/
theorem of_alike (h : Halted d f) (alike : Alike d e) : Halted e f := by
  obtain ⟨e', tick, -⟩ := tick_abreast alike h.tick
  exact (halted_of_tick tick).2

theorem entered? (h : Halted d f) : d.entered? = some d := by
  obtain ⟨id, rest, line, stack, -⟩ := h.frame
  exact entered?_of_stack_ne_nil (by simp [stack])

/-- A run that begins at a faulty statement ends there at once. -/
theorem runs_iff (h : Halted d f) : Runs mode depth d d' o ↔ d' = d ∧ o = .error (.fault f) := by
  have fails : Runs mode depth d d (.error (.fault f)) := .fail h.tick
  constructor
  · intro runs
    exact runs.unique fails
  · rintro ⟨rfl, rfl⟩
    exact fails

/-- A start, in whatever mode, ends with the same fault and leaves a note in the log only. -/
theorem ends_iff (h : Halted d f) (clear : d.lastStop = none) :
    Ends mode d d' o ↔
      d' = d.onSession (·.note (.runStarted mode d.routines.depth)) ∧ o = .error (.fault f) := by
  have begun : d.begun mode = d.onSession (·.note (.runStarted mode d.routines.depth)) := by
    rw [Debugger.begun, ← clear]
  rw [ends_iff_runs h.entered?]
  constructor
  · rintro ⟨last, runs, rfl⟩
    obtain ⟨rfl, rfl⟩ := (h.of_alike (begun_alike mode d).symm).runs_iff.1 runs
    exact ⟨begun, rfl⟩
  · rintro ⟨rfl, rfl⟩
    have again := h.of_alike (begun_alike mode d).symm
    exact ⟨d.begun mode, again.runs_iff.2 ⟨rfl, rfl⟩, begun.symm⟩

end Halted

/-! ## Starts that end with a fault -/

/-- A run that ends with a fault has come to a faulty statement, and leaves the state there. -/
theorem Runs.exists_passes_of_fault (runs : Runs mode depth d d' (.error (.fault f))) :
    (∃ passed, Passes mode depth d passed d') ∧ Halted d' f := by
  obtain ⟨passed, last, passes, concludes⟩ := runs_iff_passes.1 runs
  cases concludes with
  | fail tick =>
    obtain ⟨rfl, halted⟩ := halted_of_tick tick
    exact ⟨⟨passed, passes⟩, halted⟩

/-- If a start ends with a fault, then there was nothing to start and nothing has changed, or it has
come by micro-steps to the state that it leaves, whose top frame points at the faulty statement.
The next start, in whatever mode, ends with the same fault, writes nothing and changes nothing but
the log. -/
theorem fault_is_stable (mode : RunMode) (d d' : Debugger) (f : Fault)
    (ends : Ends mode d d' (.error (.fault f))) :
    ((d.entered? = none ∧ d' = d ∧ f = .noProgram) ∨
      ((∃ passed, ComesTo mode d passed d') ∧
        ∃ id rest line, d'.routines.stack = id :: rest ∧
          (d'.routines.routine id).atEnd = false ∧
          (d'.routines.routine id).statement? = some line ∧ d'.execute line = .fault d' f)) ∧
    ∀ mode' : RunMode, ∃ notes : List Event, ∀ (x : Debugger) (o : Outcome),
      Ends mode' d' x o ↔ x = d'.onSession (·.noteAll notes) ∧ o = .error (.fault f) := by
  cases entered : d.entered? with
  | none =>
    obtain ⟨rfl, outcome⟩ := (ends_iff_of_entered_none entered).1 ends
    cases outcome
    refine ⟨.inl ⟨rfl, rfl, rfl⟩, fun mode' => ⟨[], fun x o => ?_⟩⟩
    exact ends_iff_of_entered_none entered
  | some e =>
    obtain ⟨_, runs, rfl⟩ := (ends_iff_runs entered).1 ends
    obtain ⟨⟨passed, passes⟩, halted⟩ := runs.exists_passes_of_fault
    have clear : d'.lastStop = none := runs.lastStop_eq_none rfl
    refine ⟨.inr ⟨⟨passed, e, entered, passes⟩, halted.frame⟩, fun mode' => ?_⟩
    exact ⟨[.runStarted mode' d'.routines.depth], fun x o => halted.ends_iff clear⟩

/-- A program whose function prints a variable and then lowers one that is not set. -/
def brokenCall : Debugger :=
  (Reply.forEach (line 40)
    ["set code", "set a 1\ndef f\n    print a\n    sub b 1\n    rem a\ncall f", "end set code"]
    {}).state

/-- The run prints, and halts in the function. From there no mode leads on. -/
theorem brokenCall_fault_is_stable :
    (brokenCall.start 40 .run).state.output.toList = ["1"] ∧
    Ends .run brokenCall (brokenCall.start 40 .run).state (.error (.fault .unsetVariable)) ∧
    ∀ mode' : RunMode, ∃ notes : List Event, ∀ (x : Debugger) (o : Outcome),
      Ends mode' (brokenCall.start 40 .run).state x o ↔
        x = (brokenCall.start 40 .run).state.onSession (·.noteAll notes) ∧
          o = .error (.fault .unsetVariable) := by
  obtain ⟨output, result⟩ : (brokenCall.start 40 .run).state.output.toList = ["1"] ∧
      (brokenCall.start 40 .run).result = .error (.fault .unsetVariable) := by decide +kernel
  have ends : Ends .run brokenCall (brokenCall.start 40 .run).state
      (.error (.fault .unsetVariable)) := ⟨by simp, 40, by rw [← result]⟩
  exact ⟨output, ends, (fault_is_stable _ _ _ _ ends).2⟩

end Debugger

end LineLang
