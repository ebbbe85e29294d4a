import LineLang.Proofs.Debugger.Passage
import Mathlib.Control.Monad.Basic

/-!
# Breakpoints

After each statement a run looks at the place to which the frame of this statement has moved on, and
pauses if a breakpoint is there. So it pauses before every breakpoint that it reaches within a
frame. It does not look at the place where a call enters a function, nor at the place to which a
return leads back, so these are the two ways past a breakpoint (`run_heeds_breakpoints_iff`).
-/

namespace LineLang

namespace Debugger

variable {depth : Nat} {d x y : Debugger} {id : RoutineId} {passed : List Debugger}

/-- The debugger is about to execute a statement at a breakpoint. -/
def atBreakpoint (d : Debugger) : Bool :=
  d.pending?.isSome && d.routines.position?.any (· ∈ d.breakpoints)

/-- After a statement that is no call, the run looks at the place of the next statement. -/
theorem stop?_of_atBreakpoint (tick : y.tick = (x, .executed id))
    (other : y.pendingCommand? ≠ some .call) (hit : x.atBreakpoint = true) :
    x.stop? .run depth (.executed id) = some .breakpoint := by
  obtain ⟨-, ⟨rest, top⟩, ⟨call, -⟩ | ⟨-, stack⟩⟩ := stack_of_executed tick
  · exact absurd call other
  · rw [top] at stack
    simp only [atBreakpoint, Routines.position?, Routines.top?, stack, Bool.and_eq_true] at hit
    have member : (x.routines.routine id).position ∈ x.breakpoints := by simpa using hit.2
    simp [stop?, member]

/-- If a statement that is no call leads to a breakpoint, the run pauses there. And it executes a
statement at a breakpoint as its first statement only, if and only if no call enters a function at a
breakpoint, and no return leads to one after a statement. -/
theorem run_heeds_breakpoints_iff (d : Debugger) :
    (∀ passed y x id, ComesTo .run d passed y → y.tick = (x, .executed id) →
      y.pendingCommand? ≠ some .call → x.atBreakpoint = true →
      Ends .run d (x.stopped .breakpoint) (.ok .breakpoint)) ∧
    ((∀ passed x, ComesTo .run d passed x → x.atBreakpoint = true →
        ∀ y ∈ passed, y.pending? = none) ↔
      ∀ passed y x, ComesTo .run d (passed ++ [y]) x → x.atBreakpoint = true →
        y.pendingCommand? ≠ some .call ∧ (y.isEnded = true → ∀ z ∈ passed, z.pending? = none)) := by
  refine ⟨?_, ?_, ?_⟩
  · rintro passed y x id ⟨e, entered, passes⟩ tick other hit
    refine (ends_iff_runs entered).2 ⟨x, runs_iff_passes.2 ⟨passed, y, passes, ?_⟩, rfl⟩
    exact .stop tick (stop?_of_atBreakpoint tick other hit)
  · intro heeds passed y x comes hit
    have first := heeds (passed ++ [y]) x comes hit
    constructor
    · rw [pendingCommand?, first y (by simp)]
      simp
    · exact fun _ z member => first z (by simp [member])
  · intro condition passed x comes hit
    obtain rfl | ⟨before, y, rfl⟩ := List.eq_nil_or_concat passed
    · simp
    · rw [List.concat_eq_append] at comes ⊢
      obtain ⟨other, back⟩ := condition before y x comes hit
      obtain ⟨e, -, passes⟩ := comes
      -- What led to the breakpoint was no statement, or the run would have paused: it was a return.
      obtain ⟨t, tick, moved, on⟩ := passes.last_step
      cases t with
      | idle | failed f => cases moved
      | executed id =>
        rw [stop?_of_atBreakpoint tick other hit] at on
        cases on
      | returned =>
        have ended := (stack_of_returned tick).1
        intro z member
        obtain member | member := List.mem_append.1 member
        · exact back ended z member
        · rw [List.mem_singleton.1 member]
          exact pending?_of_isEnded ended

/-- A breakpoint is on the first line of a function that is called. -/
def breakAtEntry : Debugger :=
  (Reply.forEach (line 40) ["set code", "def f\n    set a 1\ncall f", "end set code", "add break 1"]
    {}).state

/-- The run comes to the breakpoint after two statements, and does not pause. -/
theorem breakAtEntry_is_passed :
    (breakAtEntry.start 40 .run).result = .ok .finished ∧
      ∃ passed x, ComesTo .run breakAtEntry passed x ∧ x.atBreakpoint = true ∧
        ∃ y ∈ passed, y.pending? ≠ none := by
  let first := breakAtEntry.onRoutines (·.push (.program 0))
  let start := first.begun .run
  obtain ⟨result, entered, moved, on, moved', on', hit, pending⟩ :
      (breakAtEntry.start 40 .run).result = .ok .finished ∧ breakAtEntry.entered? = some first ∧
      start.tick.2.Moved ∧ start.tick.1.stop? .run first.routines.depth start.tick.2 = none ∧
      start.tick.1.tick.2.Moved ∧
      start.tick.1.tick.1.stop? .run first.routines.depth start.tick.1.tick.2 = none ∧
      start.tick.1.tick.1.atBreakpoint = true ∧ start.pending? ≠ none := by decide +kernel
  have passes := Passes.of_tick moved on (.of_tick moved' on' (.refl _))
  exact ⟨result, _, _, ⟨first, entered, passes⟩, hit, start, by simp, pending⟩

end Debugger

end LineLang
