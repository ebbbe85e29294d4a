import LineLang.Proofs.Debugger.Alike

/-!
# Runs without a bound

A run is carried out with a bound on its micro-steps. Whether it ends, and how, does not depend on
the bound: `Runs` follows the micro-steps to the first pause or failure without counting them, and
`ends_iff_runs` reads off it how a start ends. `Advances` is the course of all micro-steps from a
debugger on, whether or not a run pauses on the way.
-/

namespace LineLang

namespace Debugger

/-- How a run ends: with the reason why it paused, or with the failure of a statement. -/
abbrev Outcome :=
  Except Failure StopReason

variable {mode : RunMode} {depth : Nat} {d d' d'' e e' : Debugger} {o : Outcome}

/-! ## The course of micro-steps -/

/-- The micro-step took a frame away or executed a statement. -/
def Tick.Moved : Tick → Prop
  | returned | executed _ => True
  | idle | failed _ => False

/-- A number of micro-steps, each of which takes a frame away or executes a statement, leads from
the first debugger to the second. -/
inductive Advances : Nat → Debugger → Debugger → Prop
  | refl (d : Debugger) : Advances 0 d d
  | step {n : Nat} {d d' d'' : Debugger} {t : Tick} (tick : d.tick = (d', t)) (moved : t.Moved)
      (rest : Advances n d' d'') : Advances (n + 1) d d''

theorem not_moved_of_stack_nil {t : Tick} (h : d.routines.stack = []) (tick : d.tick = (d', t)) :
    ¬ t.Moved := by
  rw [tick_of_stack_nil h] at tick
  cases tick
  exact id

namespace Advances

variable {m n : Nat}

theorem trans (h : Advances m d d') (h' : Advances n d' d'') : Advances (m + n) d d'' := by
  induction h with
  | refl => rwa [Nat.zero_add]
  | step tick moved _ ih =>
    rw [Nat.succ_add]
    exact .step tick moved (ih h')

/-- Each micro-step is determined by the debugger, so there is one course only. -/
theorem unique (h : Advances n d d') (h' : Advances n d d'') : d' = d'' := by
  induction h with
  | refl => cases h'; rfl
  | step tick _ _ ih =>
    cases h' with
    | step tick' _ rest' =>
      cases tick.symm.trans tick'
      exact ih rest'

/-- The course ends where the stack is empty. -/
theorem eq_of_stack_nil (h : Advances m d d') (h' : Advances n d d'')
    (empty : d'.routines.stack = []) (empty' : d''.routines.stack = []) : d' = d'' := by
  induction h generalizing n with
  | refl d =>
    cases h' with
    | refl => rfl
    | step tick' moved' => exact absurd moved' (not_moved_of_stack_nil empty tick')
  | step tick moved _ ih =>
    cases h' with
    | refl => exact absurd moved (not_moved_of_stack_nil empty' tick)
    | step tick' _ rest' =>
      cases tick.symm.trans tick'
      exact ih rest' empty

/-- Debuggers that are alike take the same course. -/
theorem abreast (h : Advances n d d') (alike : Alike d e) :
    ∃ e', Advances n e e' ∧ Abreast d e d' e' := by
  induction h generalizing e with
  | refl => exact ⟨e, .refl e, .refl alike⟩
  | step tick moved _ ih =>
    obtain ⟨next, tick', step⟩ := tick_abreast alike tick
    obtain ⟨e', rest, later⟩ := ih step.alike
    exact ⟨e', .step tick' moved rest, step.trans later⟩

/-- What was written stays written. -/
theorem exists_output (h : Advances n d d') :
    ∃ lines, d'.output.toList = d.output.toList ++ lines := by
  obtain ⟨e', -, abreast⟩ := h.abreast (.refl d)
  exact abreast.exists_output

end Advances

/-! ## Runs -/

/-- A run that was started on `depth` frames leads from the first debugger to the second, where it
ends. -/
inductive Runs (mode : RunMode) (depth : Nat) : Debugger → Debugger → Outcome → Prop
  | fail {d d' : Debugger} {f : Failure} (tick : d.tick = (d', .failed f)) :
      Runs mode depth d d' (.error f)
  | stop {d d' : Debugger} {t : Tick} {reason : StopReason} (tick : d.tick = (d', t))
      (pause : d'.stop? mode depth t = some reason) : Runs mode depth d d' (.ok reason)
  | more {d d' d'' : Debugger} {t : Tick} {o : Outcome} (tick : d.tick = (d', t))
      (moved : t.Moved) (on : d'.stop? mode depth t = none)
      (rest : Runs mode depth d' d'' o) : Runs mode depth d d'' o

theorem runFrom_of_failed {f : Failure} (fuel : Nat) (tick : d.tick = (d', .failed f)) :
    runFrom mode depth (fuel + 1) d = ⟨d', .error f⟩ := by
  simp only [runFrom, tick]

theorem runFrom_of_stop {t : Tick} {reason : StopReason} (fuel : Nat) (tick : d.tick = (d', t))
    (pause : d'.stop? mode depth t = some reason) :
    runFrom mode depth (fuel + 1) d = .ok d' reason := by
  cases t with
  | failed f => cases pause
  | idle | returned | executed id => simp only [runFrom, tick, pause]

theorem runFrom_of_moved {t : Tick} (fuel : Nat) (tick : d.tick = (d', t)) (moved : t.Moved)
    (on : d'.stop? mode depth t = none) :
    runFrom mode depth (fuel + 1) d = runFrom mode depth fuel d' := by
  cases t with
  | failed f | idle => cases moved
  | returned | executed id => simp only [runFrom, tick, on]

namespace Runs

theorem of_runFrom {fuel : Nat} (h : runFrom mode depth fuel d = ⟨d', o⟩)
    (definite : o ≠ .error .unfinished) : Runs mode depth d d' o := by
  induction fuel generalizing d with
  | zero =>
    cases h
    exact absurd rfl definite
  | succ fuel ih =>
    rcases tick : d.tick with ⟨next, t⟩
    cases pause : next.stop? mode depth t with
    | some reason =>
      rw [runFrom_of_stop fuel tick pause] at h
      cases h
      exact .stop tick pause
    | none =>
      cases t with
      | idle => cases pause
      | failed f =>
        rw [runFrom_of_failed fuel tick] at h
        cases h
        exact .fail tick
      | returned | executed id =>
        rw [runFrom_of_moved fuel tick trivial pause] at h
        exact .more tick trivial pause (ih h)

theorem exists_runFrom (h : Runs mode depth d d' o) :
    ∃ fuel, runFrom mode depth fuel d = ⟨d', o⟩ := by
  induction h with
  | fail tick => exact ⟨1, runFrom_of_failed 0 tick⟩
  | stop tick pause => exact ⟨1, runFrom_of_stop 0 tick pause⟩
  | more tick moved on _ ih =>
    obtain ⟨fuel, h⟩ := ih
    exact ⟨fuel + 1, (runFrom_of_moved fuel tick moved on).trans h⟩

theorem ne_unfinished (h : Runs mode depth d d' o) : o ≠ .error .unfinished := by
  induction h with
  | fail tick =>
    intro unfinished
    cases unfinished
    exact failure_ne_unfinished tick rfl
  | stop => simp
  | more _ _ _ _ ih => exact ih

/-- A run ends in one way only. -/
theorem unique {o' : Outcome} (h : Runs mode depth d d' o) (h' : Runs mode depth d d'' o') :
    d' = d'' ∧ o = o' := by
  induction h with
  | fail tick =>
    cases h' with
    | fail tick' =>
      cases tick.symm.trans tick'
      exact ⟨rfl, rfl⟩
    | stop tick' pause' =>
      cases tick.symm.trans tick'
      cases pause'
    | more tick' moved' =>
      cases tick.symm.trans tick'
      cases moved'
  | stop tick pause =>
    cases h' with
    | fail tick' =>
      cases tick.symm.trans tick'
      cases pause
    | stop tick' pause' =>
      cases tick.symm.trans tick'
      cases pause.symm.trans pause'
      exact ⟨rfl, rfl⟩
    | more tick' moved' on' =>
      cases tick.symm.trans tick'
      cases pause.symm.trans on'
  | more tick moved on _ ih =>
    cases h' with
    | fail tick' =>
      cases tick.symm.trans tick'
      cases moved
    | stop tick' pause' =>
      cases tick.symm.trans tick'
      cases on.symm.trans pause'
    | more tick' _ _ rest' =>
      cases tick.symm.trans tick'
      exact ih rest'

/-- A run that ends with a reason follows the course of micro-steps. -/
theorem exists_advances {reason : StopReason} (h : Runs mode depth d d' (.ok reason)) :
    ∃ n, Advances n d d' := by
  generalize same : (Except.ok reason : Outcome) = o at h
  induction h with
  | fail => cases same
  | @stop d d' t reason tick pause =>
    cases t with
    | idle =>
      have moves := tick ▸ tick_moves d
      cases moves
      exact ⟨0, .refl d⟩
    | returned | executed id => exact ⟨1, .step tick trivial (.refl d')⟩
    | failed f => cases pause
  | more tick moved _ _ ih =>
    obtain ⟨n, advances⟩ := ih same
    exact ⟨n + 1, .step tick moved advances⟩

/-- A run finishes on an empty stack. -/
theorem stack_of_finished (h : Runs mode depth d d' (.ok .finished)) : d'.routines.stack = [] := by
  generalize same : (Except.ok .finished : Outcome) = o at h
  induction h with
  | fail => cases same
  | @stop d d' t reason tick pause =>
    cases same
    cases t with
    | idle => exact stack_nil_of_idle tick
    | returned | executed id | failed f => simp only [stop?] at pause; grind
  | more _ _ _ _ ih => exact ih same

/-- A run that pauses for another reason leaves a frame on the stack. -/
theorem stack_of_paused {reason : StopReason} (h : Runs mode depth d d' (.ok reason))
    (started : 0 < depth) (paused : reason ≠ .finished) : d'.routines.stack ≠ [] := by
  generalize same : (Except.ok reason : Outcome) = o at h
  induction h with
  | fail => cases same
  | @stop d d' t reason tick pause =>
    cases same
    cases t with
    | idle => simp_all [stop?]
    | executed id => exact stack_ne_nil_of_executed tick
    | failed f => cases pause
    | returned =>
      intro empty
      simp only [stop?, Routines.depth, empty, List.length_nil] at pause
      grind
  | more _ _ _ _ ih => exact ih same

theorem lastStop_eq_none (h : Runs mode depth d d' o) (clear : d.lastStop = none) :
    d'.lastStop = none := by
  induction h with
  | fail tick | stop tick => exact tick_lastStop_eq_none tick clear
  | more tick _ _ _ ih => exact ih (tick_lastStop_eq_none tick clear)

/-- Without breakpoints a run to the end does not pause on the way. -/
theorem of_advances {n : Nat} (h : Advances n d d') (none : d'.breakpoints = [])
    (rest : Runs .run depth d' d'' o) : Runs .run depth d d'' o ∧ d.breakpoints = [] := by
  induction h with
  | refl => exact ⟨rest, none⟩
  | @step n d next d' t tick moved _ ih =>
    obtain ⟨runs, none⟩ := ih none rest
    refine ⟨.more tick moved ?_ runs, tick_breakpoints_eq_nil tick none⟩
    cases t with
    | idle | failed f => cases moved
    | returned => simp [stop?]
    | executed id => simp [stop?, none]

theorem stop?_congr (alike : Alike d e) (same : d.breakpoints = e.breakpoints) (t : Tick) :
    d.stop? mode depth t = e.stop? mode depth t := by
  cases t <;> simp only [stop?, alike.routines, same]

/-- Debuggers that are alike and have the same breakpoints run in the same way. -/
theorem abreast (h : Runs mode depth d d' o) (alike : Alike d e)
    (same : d.breakpoints = e.breakpoints) :
    ∃ e', Runs mode depth e e' o ∧ Abreast d e d' e' := by
  induction h generalizing e with
  | fail tick =>
    obtain ⟨e', tick', step⟩ := tick_abreast alike tick
    exact ⟨e', .fail tick', step⟩
  | stop tick pause =>
    obtain ⟨e', tick', step⟩ := tick_abreast alike tick
    rw [stop?_congr step.alike (step.breakpoints same)] at pause
    exact ⟨e', .stop tick' pause, step⟩
  | more tick moved on _ ih =>
    obtain ⟨next, tick', step⟩ := tick_abreast alike tick
    rw [stop?_congr step.alike (step.breakpoints same)] at on
    obtain ⟨e', rest, later⟩ := ih step.alike (step.breakpoints same)
    exact ⟨e', .more tick' moved on rest, step.trans later⟩

theorem exists_output (h : Runs mode depth d d' o) :
    ∃ lines, d'.output.toList = d.output.toList ++ lines := by
  obtain ⟨e', -, abreast⟩ := h.abreast (.refl d) rfl
  exact abreast.exists_output

/-- What every micro-step keeps is kept by a run. -/
theorem keeps {P : Debugger → Prop} (h : Runs mode depth d d' o) (first : P d)
    (step : ∀ {x y : Debugger} {t : Tick}, P x → x.tick = (y, t) → P y) : P d' := by
  induction h with
  | fail tick | stop tick => exact step first tick
  | more tick _ _ _ ih => exact ih (step first tick)

end Runs

/-! ## Starts -/

/-- The debugger with which a start begins: one with a frame. A program is put on an empty stack. -/
def entered? (d : Debugger) : Option Debugger :=
  if d.routines.stack.isEmpty then d.program?.map fun id => d.onRoutines (·.push id) else some d

/-- Notes that a run begins. -/
def begun (mode : RunMode) (d : Debugger) : Debugger :=
  { d with lastStop := none }.onSession (·.note (.runStarted mode d.routines.depth))

/-- Notes how a run ended, unless a statement failed. -/
def ended (d : Debugger) : Outcome → Debugger
  | .ok reason => d.stopped reason
  | .error _ => d

theorem run_eq (fuel : Nat) (mode : RunMode) (d : Debugger) :
    d.run fuel mode =
      ⟨(runFrom mode d.routines.depth fuel (d.begun mode)).state.ended
          (runFrom mode d.routines.depth fuel (d.begun mode)).result,
        (runFrom mode d.routines.depth fuel (d.begun mode)).result⟩ := by
  unfold run
  cases ended : (runFrom mode d.routines.depth fuel (d.begun mode)).result with
  | ok reason =>
    unfold begun at ended ⊢
    simp only [ended]
    rfl
  | error f =>
    unfold begun at ended ⊢
    simp only [ended]
    exact congrArg (Reply.mk _) ended

theorem start_eq (fuel : Nat) (mode : RunMode) (d : Debugger) :
    d.start fuel mode =
      match d.entered? with
      | none => .fault d .noProgram
      | some e => e.run fuel mode := by
  unfold start entered?
  split
  · cases d.program? <;> rfl
  · rfl

theorem entered?_of_stack_ne_nil (h : d.routines.stack ≠ []) : d.entered? = some d := by
  simp [entered?, h]

/-- A start pushes the program on an empty stack, and goes on with the frames of any other. -/
theorem entered_cases (h : d.entered? = some e) :
    (∃ id, d.routines.stack = [] ∧ d.program? = some id ∧ e = d.onRoutines (·.push id)) ∨
      (d.routines.stack ≠ [] ∧ e = d) := by
  unfold entered? at h
  split at h
  · next empty =>
    obtain ⟨id, program, rfl⟩ := Option.map_eq_some_iff.1 h
    exact .inl ⟨id, List.isEmpty_iff.1 empty, program, rfl⟩
  · next frames =>
    cases h
    exact .inr ⟨fun empty => frames (List.isEmpty_iff.2 empty), rfl⟩

theorem depth_pos_of_entered (h : d.entered? = some e) : 0 < e.routines.depth := by
  obtain ⟨id, -, -, rfl⟩ | ⟨frames, rfl⟩ := entered_cases h
  · exact Nat.succ_pos _
  · exact List.length_pos_iff.2 frames

theorem output_of_entered (h : d.entered? = some e) : e.output = d.output := by
  obtain ⟨id, -, -, rfl⟩ | ⟨-, rfl⟩ := entered_cases h <;> rfl

theorem begun_alike (mode : RunMode) (d : Debugger) : Alike (d.begun mode) d :=
  ⟨rfl, rfl, rfl, rfl, rfl, rfl⟩

theorem stopped_alike (d : Debugger) (reason : StopReason) : Alike (d.stopped reason) d :=
  ⟨rfl, rfl, rfl, rfl, rfl, rfl⟩

theorem ended_alike (d : Debugger) (o : Outcome) : Alike (d.ended o) d := by
  cases o with
  | ok reason => exact stopped_alike d reason
  | error f => exact .refl d

theorem breakpoints_ended (d : Debugger) (o : Outcome) :
    (d.ended o).breakpoints = d.breakpoints := by
  cases o <;> rfl

theorem output_ended (d : Debugger) (o : Outcome) : (d.ended o).output = d.output := by
  cases o <;> rfl

/-- A start ends in the debugger `d'` with an outcome, whatever number of micro-steps it takes. -/
def Ends (mode : RunMode) (d d' : Debugger) (o : Outcome) : Prop :=
  o ≠ .error .unfinished ∧ ∃ fuel, d.start fuel mode = ⟨d', o⟩

theorem ends_of_start (fuel : Nat) (definite : (d.start fuel mode).result ≠ .error .unfinished) :
    Ends mode d (d.start fuel mode).state (d.start fuel mode).result :=
  ⟨definite, fuel, rfl⟩

theorem ends_of_result (fuel : Nat) (reason : StopReason)
    (h : (d.start fuel mode).result = .ok reason) :
    Ends mode d (d.start fuel mode).state (.ok reason) :=
  ⟨by simp, fuel, by rw [← h]⟩

theorem ends_iff_runs (entered : d.entered? = some e) :
    Ends mode d d' o ↔
      ∃ last, Runs mode e.routines.depth (e.begun mode) last o ∧ d' = last.ended o := by
  simp only [Ends, start_eq, entered, run_eq]
  constructor
  · rintro ⟨definite, fuel, h⟩
    cases h
    exact ⟨_, .of_runFrom rfl definite, rfl⟩
  · rintro ⟨last, runs, rfl⟩
    obtain ⟨fuel, h⟩ := runs.exists_runFrom
    exact ⟨runs.ne_unfinished, fuel, by rw [h]⟩

theorem ends_iff_of_entered_none (entered : d.entered? = none) :
    Ends mode d d' o ↔ d' = d ∧ o = .error (.fault .noProgram) := by
  simp only [Ends, start_eq, entered, Reply.fault]
  constructor
  · rintro ⟨-, -, h⟩
    cases h
    exact ⟨rfl, rfl⟩
  · rintro ⟨rfl, rfl⟩
    exact ⟨by simp, 0, rfl⟩

/-- What depends on nothing but what a statement can read, and is kept by micro-steps and by putting
a program on the stack, is kept by a start. -/
theorem Ends.keeps {P : Debugger → Prop} (ends : Ends mode d d' o) (first : P d)
    (congr : ∀ {x y : Debugger}, P x → Alike y x → P y)
    (enter : ∀ {x y : Debugger}, P x → x.entered? = some y → P y)
    (step : ∀ {x y : Debugger} {t : Tick}, P x → x.tick = (y, t) → P y) : P d' := by
  cases entered : d.entered? with
  | none =>
    rw [((ends_iff_of_entered_none entered).1 ends).1]
    exact first
  | some e =>
    obtain ⟨last, runs, rfl⟩ := (ends_iff_runs entered).1 ends
    have kept := runs.keeps (congr (enter first entered) (begun_alike mode e)) step
    exact congr kept (ended_alike last o)

end Debugger

end LineLang
