import LineLang.Proofs.Debugger.Runs

/-!
# The states that a run passes

`Runs` says how a run ends. `Passes` says what it is like on the way: it lists the states from which
the run made its micro-steps, and so speaks of runs that never end as well. What is executed is read
off these states: `pending?` is the statement that the next micro-step executes, and a frame that
`isEnded` is taken away instead.
-/

namespace LineLang

namespace Debugger

variable {mode : RunMode} {depth : Nat} {d d' e x y : Debugger} {t : Tick} {id : RoutineId}
  {passed : List Debugger} {o : Outcome}

/-! ## What the next micro-step does -/

/-- Whether the routine of the top frame is at its end. -/
def isEnded (d : Debugger) : Bool :=
  d.routines.top?.any fun id => (d.routines.routine id).atEnd

/-- The statement under the pointer of the top frame. -/
def pending? (d : Debugger) : Option String :=
  if d.isEnded then none else d.routines.top?.bind fun id => (d.routines.routine id).statement?

/-- The command of the statement under the pointer of the top frame. -/
def pendingCommand? (d : Debugger) : Option Command :=
  d.pending?.bind commandOf?

theorem isEnded_of_stack {rest : List RoutineId} (stack : d.routines.stack = id :: rest) :
    d.isEnded = (d.routines.routine id).atEnd := by
  simp [isEnded, Routines.top?, stack]

theorem pending?_of_isEnded (h : d.isEnded = true) : d.pending? = none := by
  rw [pending?, if_pos h]

theorem pending?_of_stack {rest : List RoutineId} (stack : d.routines.stack = id :: rest)
    (inside : (d.routines.routine id).atEnd = false) :
    d.pending? = (d.routines.routine id).statement? := by
  rw [pending?, isEnded_of_stack stack, inside, if_neg Bool.false_ne_true]
  simp [Routines.top?, stack]

theorem pending?_of_stack_nil (h : d.routines.stack = []) : d.pending? = none := by
  simp [pending?, isEnded, Routines.top?, h]

theorem isEnded_congr (same : d.routines = e.routines) : d.isEnded = e.isEnded := by
  unfold isEnded
  rw [same]

theorem pending?_congr (same : d.routines = e.routines) : d.pending? = e.pending? := by
  unfold pending?
  rw [isEnded_congr same, same]

theorem stack_leave (id : RoutineId) (d : Debugger) :
    (d.leave id).routines.stack = d.routines.stack.tail := by
  unfold leave
  dsimp only
  split <;> rfl

/-- A frame that has ended is taken away. -/
theorem tick_of_isEnded (h : d.isEnded = true) :
    ∃ d', d.tick = (d', .returned) ∧ d'.routines.depth + 1 = d.routines.depth := by
  cases stack : d.routines.stack with
  | nil => simp [isEnded, Routines.top?, stack] at h
  | cons id rest =>
    rw [isEnded_of_stack stack] at h
    refine ⟨d.leave id, ?_, ?_⟩
    · simp [tick, Routines.top?, stack, h]
    · simp [Routines.depth, stack_leave, stack]

/-- What is taken away is the top frame, which has ended. -/
theorem stack_of_returned (tick : d.tick = (d', .returned)) :
    d.isEnded = true ∧ ∃ id, d.routines.stack = id :: d'.routines.stack := by
  have moves := tick ▸ tick_moves d
  cases moves with
  | leave id rest stack ended =>
    refine ⟨(isEnded_of_stack stack).trans ended, id, ?_⟩
    rw [stack_leave, stack, List.tail_cons]

/-- What is executed is the statement of the top frame. A call puts a frame on the stack, and any
other statement leaves the stack as it is. -/
theorem stack_of_executed (tick : d.tick = (d', .executed id)) :
    d.isEnded = false ∧ (∃ rest, d.routines.stack = id :: rest) ∧
      ((d.pendingCommand? = some .call ∧
          ∃ name, d'.routines.stack = .function name :: d.routines.stack) ∨
        d.pendingCommand? ≠ some .call ∧ d'.routines.stack = d.routines.stack) := by
  have moves := tick ▸ tick_moves d
  cases moves with
  | execute id rest line stack inside pending done =>
    have command : d.pendingCommand? = commandOf? line := by
      rw [pendingCommand?, pending?_of_stack stack inside, pending, Option.bind_some]
    refine ⟨(isEnded_of_stack stack).trans inside, ⟨rest, stack⟩, ?_⟩
    rw [command]
    by_cases call : commandOf? line = some .call
    · obtain ⟨name, r, -, -, executed⟩ := execute_of_call call done
      refine .inl ⟨call, name, ?_⟩
      rw [executed]
      rfl
    · exact .inr ⟨call, (execute_effect d line).stack_eq call⟩

theorem exists_pending_of_executed (tick : d.tick = (d', .executed id)) :
    ∃ line, d.pending? = some line := by
  have moves := tick ▸ tick_moves d
  cases moves with
  | execute id rest line stack inside pending done =>
    exact ⟨line, (pending?_of_stack stack inside).trans pending⟩

/-- Without a frame that has ended and without a statement no micro-step is made. -/
theorem not_moved_of_pending?_eq_none (inside : d.isEnded = false) (nothing : d.pending? = none)
    (tick : d.tick = (d', t)) : ¬ t.Moved := by
  cases t with
  | idle | failed f => exact id
  | returned =>
    rw [(stack_of_returned tick).1] at inside
    cases inside
  | executed id =>
    obtain ⟨line, pending⟩ := exists_pending_of_executed tick
    rw [nothing] at pending
    cases pending

/-! ## Passages -/

instance (t : Tick) : Decidable t.Moved :=
  match t with
  | .returned | .executed _ => isTrue trivial
  | .idle | .failed _ => isFalse not_false

/-- A run that was started on `depth` frames makes a micro-step from each state of the list, in this
order, without a pause, and so comes from the first debugger to the last. -/
inductive Passes (mode : RunMode) (depth : Nat) : Debugger → List Debugger → Debugger → Prop
  | refl (d : Debugger) : Passes mode depth d [] d
  | step {d d' last : Debugger} {t : Tick} {passed : List Debugger} (tick : d.tick = (d', t))
      (moved : t.Moved) (on : d'.stop? mode depth t = none)
      (rest : Passes mode depth d' passed last) : Passes mode depth d (d :: passed) last

/-- A run ends with the next micro-step: the statement fails, or the run pauses after it. -/
inductive Concludes (mode : RunMode) (depth : Nat) (last d : Debugger) : Outcome → Prop
  | fail {f : Failure} (tick : last.tick = (d, .failed f)) : Concludes mode depth last d (.error f)
  | stop {t : Tick} {reason : StopReason} (tick : last.tick = (d, t))
      (pause : d.stop? mode depth t = some reason) : Concludes mode depth last d (.ok reason)

namespace Passes

/-- A passage begins with a micro-step that can be computed. -/
theorem of_tick (moved : d.tick.2.Moved) (on : d.tick.1.stop? mode depth d.tick.2 = none)
    (rest : Passes mode depth d.tick.1 passed x) : Passes mode depth d (d :: passed) x :=
  .step rfl moved on rest

theorem append {passed' : List Debugger} (h : Passes mode depth d passed x)
    (h' : Passes mode depth x passed' y) : Passes mode depth d (passed ++ passed') y := by
  induction h with
  | refl => exact h'
  | step tick moved on _ ih => exact .step tick moved on (ih h')

/-- The last micro-step of a passage. -/
theorem last_step (h : Passes mode depth d (passed ++ [y]) x) :
    ∃ t, y.tick = (x, t) ∧ t.Moved ∧ x.stop? mode depth t = none := by
  induction passed generalizing d with
  | nil =>
    cases h with
    | step tick moved on rest =>
      cases rest
      exact ⟨_, tick, moved, on⟩
  | cons first passed ih =>
    cases h with
    | step _ _ _ rest => exact ih rest

/-- What holds at first and is kept by every micro-step after which the run goes on holds of all
states of the passage. -/
theorem keeps {P : Debugger → Prop} (h : Passes mode depth d passed x) (first : P d)
    (step : ∀ {y y' : Debugger} {t : Tick}, P y → y.tick = (y', t) → t.Moved →
      y'.stop? mode depth t = none → P y') : ∀ y ∈ passed ++ [x], P y := by
  induction h with
  | refl d => simpa using first
  | step tick moved on _ ih =>
    intro y member
    obtain rfl | member := List.mem_cons.1 member
    · exact first
    · exact ih (step first tick moved on) y member

end Passes

theorem runs_iff_passes :
    Runs mode depth d d' o ↔
      ∃ passed last, Passes mode depth d passed last ∧ Concludes mode depth last d' o := by
  constructor
  · intro h
    induction h with
    | fail tick => exact ⟨[], _, .refl _, .fail tick⟩
    | stop tick pause => exact ⟨[], _, .refl _, .stop tick pause⟩
    | more tick moved on _ ih =>
      obtain ⟨passed, last, passes, concludes⟩ := ih
      exact ⟨_, last, .step tick moved on passes, concludes⟩
  · rintro ⟨passed, last, passes, concludes⟩
    induction passes with
    | refl =>
      cases concludes with
      | fail tick => exact .fail tick
      | stop tick pause => exact .stop tick pause
    | step tick moved on _ ih => exact .more tick moved on (ih concludes)

/-- A start passes the states of the list and comes to the last debugger. -/
def ComesTo (mode : RunMode) (d : Debugger) (passed : List Debugger) (last : Debugger) : Prop :=
  ∃ e, d.entered? = some e ∧ Passes mode e.routines.depth (e.begun mode) passed last

theorem comesTo_iff_of_stack_ne_nil (framed : d.routines.stack ≠ []) :
    ComesTo mode d passed x ↔ Passes mode d.routines.depth (d.begun mode) passed x := by
  simp [ComesTo, entered?_of_stack_ne_nil framed]

end Debugger

end LineLang
