import LineLang.Proofs.Debugger.Passage
import LineLang.Proofs.Debugger.Schedule

/-!
# Stepping over

A step over pauses only on a stack of the depth that it was started on. If the top frame has a
statement left, this is executed first. If it was a call, the run then stays above the frames that
it was started on (`Above`) until the call has returned to them. If the top frame has ended, the run
goes below them, and a call is the only way back up.

So a step over ends where it was started or with an empty stack (`stepOver_keeps_depth`). It
executes at most one statement of the frames that it was started on if the top frame has not ended.
Otherwise it can execute many (`stepOver_executes_at_most_one_iff`).
-/

namespace LineLang

namespace Debugger

variable {depth k n : Nat} {d d' e x y last next : Debugger} {t : Tick} {id : RoutineId}
  {base : List RoutineId} {passed : List Debugger} {reason : StopReason} {o : Outcome}

/-! ## Where a step over pauses -/

theorem stop?_stepOver_eq_none_iff (moved : t.Moved) :
    d.stop? .stepOver depth t = none ↔ d.routines.depth ≠ depth := by
  cases t with
  | idle | failed f => cases moved
  | returned => simp [stop?]
  | executed id => simp only [stop?]; grind

theorem stop?_stepOver_executed (h : d.stop? .stepOver depth (.executed id) = some reason) :
    d.routines.depth = depth ∧ (reason = .step ∨
      reason = .breakpoint ∧ (d.routines.routine id).position ∈ d.breakpoints) := by
  simp only [stop?] at h
  grind

theorem stop?_stepOver_returned (h : d.stop? .stepOver depth .returned = some reason) :
    d.routines.depth = depth ∧ reason = .returned := by
  simp only [stop?] at h
  grind

theorem depth_of_executed (tick : d.tick = (d', .executed id)) :
    d'.routines.depth = d.routines.depth ∨ d'.routines.depth = d.routines.depth + 1 := by
  obtain ⟨-, -, ⟨-, name, stack⟩ | ⟨-, stack⟩⟩ := stack_of_executed tick
  · right
    rw [Routines.depth, stack]
    rfl
  · left
    rw [Routines.depth, stack]
    rfl

theorem depth_of_returned (tick : d.tick = (d', .returned)) :
    d'.routines.depth + 1 = d.routines.depth := by
  obtain ⟨-, id, stack⟩ := stack_of_returned tick
  rw [Routines.depth, Routines.depth, stack]
  rfl

/-! ## Above and below the frames at the start -/

/-- The stack has frames on top of the base. -/
structure Above (base : List RoutineId) (d : Debugger) : Prop where
  suffix : base <:+ d.routines.stack
  deeper : base.length < d.routines.depth

/-- Above the base, a micro-step stays there or takes the last frame above it away. -/
theorem Above.tick (h : Above base d) (tick : d.tick = (d', t)) (moved : t.Moved) :
    Above base d' ∨ t = .returned ∧ d'.routines.stack = base := by
  cases t with
  | idle | failed f => cases moved
  | executed id =>
    left
    have deeper := h.deeper
    obtain ⟨-, -, ⟨-, name, stack⟩ | ⟨-, stack⟩⟩ := stack_of_executed tick
    · refine ⟨stack ▸ h.suffix.trans (List.suffix_cons _ _), ?_⟩
      rw [Routines.depth, stack, List.length_cons]
      exact Nat.lt_succ_of_lt deeper
    · exact ⟨stack ▸ h.suffix, by rwa [Routines.depth, stack]⟩
  | returned =>
    obtain ⟨-, id, stack⟩ := stack_of_returned tick
    have deeper := h.deeper
    rw [Routines.depth, stack, List.length_cons] at deeper
    have suffix : base <:+ d'.routines.stack := by
      -- The base is not the whole stack: a frame is above it.
      obtain same | suffix := List.suffix_cons_iff.1 (stack ▸ h.suffix)
      · rw [same, List.length_cons] at deeper
        omega
      · exact suffix
    by_cases same : base.length = d'.routines.stack.length
    · exact .inr ⟨rfl, (suffix.eq_of_length same).symm⟩
    · left
      refine ⟨suffix, ?_⟩
      rw [Routines.depth]
      omega

theorem Above.stays (h : Above base d) (tick : d.tick = (d', t)) (moved : t.Moved)
    (on : d'.stop? .stepOver base.length t = none) : Above base d' := by
  obtain above | ⟨-, stack⟩ := h.tick tick moved
  · exact above
  · have other := (stop?_stepOver_eq_none_iff moved).1 on
    rw [Routines.depth, stack] at other
    exact absurd rfl other

/-- Below the depth at the start, a micro-step after which a step over goes on stays there. -/
theorem depth_lt_of_tick (below : d.routines.depth < depth) (tick : d.tick = (d', t))
    (moved : t.Moved) (on : d'.stop? .stepOver depth t = none) : d'.routines.depth < depth := by
  have other := (stop?_stepOver_eq_none_iff moved).1 on
  cases t with
  | idle | failed f => cases moved
  | executed id =>
    have := depth_of_executed tick
    omega
  | returned =>
    have := depth_of_returned tick
    omega

/-- After its first micro-step a step over stays below the frames at the start if the top one had
ended, and above them if a call was made. -/
theorem Passes.stepOver_cases (h : Passes .stepOver d.routines.depth d passed x) :
    passed = [] ∧ x = d ∨
    ∃ rest, passed = d :: rest ∧
      (d.isEnded = true ∧ (∀ y ∈ rest ++ [x], y.routines.depth < d.routines.depth) ∨
        d.isEnded = false ∧ d.pendingCommand? = some .call ∧
          ∀ y ∈ rest ++ [x], Above d.routines.stack y) := by
  cases h with
  | refl => exact .inl ⟨rfl, rfl⟩
  | @step _ next _ t rest tick moved on passes =>
    refine .inr ⟨rest, rfl, ?_⟩
    cases t with
    | idle | failed f => cases moved
    | returned =>
      have popped := depth_of_returned tick
      have below : next.routines.depth < d.routines.depth := by omega
      exact .inl ⟨(stack_of_returned tick).1, passes.keeps below depth_lt_of_tick⟩
    | executed id =>
      obtain ⟨inside, -, ⟨call, name, stack⟩ | ⟨-, stack⟩⟩ := stack_of_executed tick
      · have above : Above d.routines.stack next := by
          refine ⟨stack ▸ List.suffix_cons _ _, ?_⟩
          rw [Routines.depth, stack]
          exact Nat.lt_succ_self _
        exact .inr ⟨inside, call, passes.keeps above Above.stays⟩
      · -- A statement that is no call keeps the depth, so the step over has paused after it.
        have other := (stop?_stepOver_eq_none_iff moved).1 on
        rw [Routines.depth, stack] at other
        exact absurd rfl other

/-! ## How a step over ends -/

/-- The first micro-step ends a step over only if it executed a statement that is no call. -/
theorem stop_of_first (tick : d.tick = (d', t)) (framed : d.routines.stack ≠ [])
    (pause : d'.stop? .stepOver d.routines.depth t = some reason) :
    d.isEnded = false ∧ d'.routines.stack = d.routines.stack ∧ d.pendingCommand? ≠ some .call ∧
      (reason = .step ∨
        reason = .breakpoint ∧ ∃ p ∈ d'.routines.position?, p ∈ d'.breakpoints) := by
  cases t with
  | idle =>
    have moves := tick ▸ tick_moves d
    cases moves with
    | idle empty => exact absurd empty framed
  | failed f => cases pause
  | returned =>
    have popped := depth_of_returned tick
    have := (stop?_stepOver_returned pause).1
    omega
  | executed id =>
    obtain ⟨depth, reasons⟩ := stop?_stepOver_executed pause
    obtain ⟨inside, ⟨rest, top⟩, ⟨-, name, stack⟩ | ⟨other, stack⟩⟩ := stack_of_executed tick
    · rw [Routines.depth, stack] at depth
      exact absurd depth (Nat.succ_ne_self _)
    · refine ⟨inside, stack, other, reasons.imp_right ?_⟩
      rintro ⟨same, hit⟩
      refine ⟨same, _, ?_, hit⟩
      simp [Routines.position?, Routines.top?, stack, top]

/-- A step over ends on a stack of the depth at its start, or on an empty one. -/
theorem depth_of_stop (tick : x.tick = (d', t))
    (pause : d'.stop? .stepOver depth t = some reason) :
    d'.routines.depth = depth ∨ d'.routines.depth = 0 ∧ reason = .finished := by
  cases t with
  | idle =>
    cases pause
    rw [Routines.depth, stack_nil_of_idle tick]
    exact .inr ⟨rfl, rfl⟩
  | failed f => cases pause
  | returned => exact .inl (stop?_stepOver_returned pause).1
  | executed id => exact .inl (stop?_stepOver_executed pause).1

/-- From above, a step over ends when it is back on the frames at the start. -/
theorem stop_of_above (tick : x.tick = (d', t)) (above : Above base x)
    (pause : d'.stop? .stepOver base.length t = some reason) :
    d'.routines.stack = base ∧ reason = .returned := by
  cases t with
  | idle =>
    have moves := tick ▸ tick_moves x
    cases moves with
    | idle empty =>
      have deeper := above.deeper
      simp [Routines.depth, empty] at deeper
  | failed f => cases pause
  | returned =>
    obtain ⟨depth, rfl⟩ := stop?_stepOver_returned pause
    obtain above' | ⟨-, stack⟩ := above.tick tick trivial
    · exact absurd depth (Nat.ne_of_gt above'.deeper)
    · exact ⟨stack, rfl⟩
  | executed id =>
    have depth := (stop?_stepOver_executed pause).1
    obtain above' | ⟨other, -⟩ := above.tick tick trivial
    · exact absurd depth (Nat.ne_of_gt above'.deeper)
    · cases other

/-- How a step over ends. -/
theorem Runs.stepOver_cases (h : Runs .stepOver d.routines.depth d d' (.ok reason))
    (framed : d.routines.stack ≠ []) :
    d.isEnded = true ∧
        (d'.routines.depth = d.routines.depth ∨ d'.routines.depth = 0 ∧ reason = .finished) ∨
      d.isEnded = false ∧ d'.routines.stack = d.routines.stack ∧
        (d.pendingCommand? = some .call ∧ reason = .returned ∨
          d.pendingCommand? ≠ some .call ∧
            (reason = .step ∨
              reason = .breakpoint ∧ ∃ p ∈ d'.routines.position?, p ∈ d'.breakpoints)) := by
  obtain ⟨passed, last, passes, concludes⟩ := runs_iff_passes.1 h
  cases concludes with
  | stop tick pause =>
    obtain ⟨-, rfl⟩ | ⟨rest, -, ⟨ended, -⟩ | ⟨inside, call, above⟩⟩ := passes.stepOver_cases
    · obtain ⟨inside, stack, other, reasons⟩ := stop_of_first tick framed pause
      exact .inr ⟨inside, stack, .inr ⟨other, reasons⟩⟩
    · exact .inl ⟨ended, depth_of_stop tick pause⟩
    · obtain ⟨stack, returned⟩ := stop_of_above tick (above last (by simp)) pause
      exact .inr ⟨inside, stack, .inl ⟨call, returned⟩⟩

/-- Breakpoints do not change where a step over ends. At most they give it another reason to end
there. -/
theorem Runs.stepOver_alike (h : Runs .stepOver depth d d' (.ok reason)) (alike : Alike d e) :
    ∃ e' reason', Runs .stepOver depth e e' (.ok reason') ∧ Abreast d e d' e' ∧
      (reason' = .returned ↔ reason = .returned) ∧ (reason' = .finished ↔ reason = .finished) := by
  generalize same : (Except.ok reason : Outcome) = o at h
  induction h generalizing e with
  | fail => cases same
  | @stop d d' t _ tick pause =>
    cases same
    obtain ⟨e', tick', abreast⟩ := tick_abreast alike tick
    have routines := abreast.alike.routines
    cases t with
    | failed f => cases pause
    | idle =>
      cases pause
      exact ⟨e', .finished, .stop tick' rfl, abreast, by simp, by simp⟩
    | returned =>
      refine ⟨e', reason, .stop tick' ?_, abreast, by simp, by simp⟩
      simpa only [stop?, routines] using pause
    | executed id =>
      obtain ⟨level, reasons⟩ := stop?_stepOver_executed pause
      have paused : e'.stop? .stepOver depth (.executed id) ≠ none := fun on =>
        (stop?_stepOver_eq_none_iff (t := .executed id) trivial).1 on (routines ▸ level)
      obtain ⟨reason', pause'⟩ := Option.ne_none_iff_exists'.1 paused
      obtain ⟨-, reasons'⟩ := stop?_stepOver_executed pause'
      refine ⟨e', reason', .stop tick' pause', abreast, ?_, ?_⟩ <;> grind
  | more tick moved on _ ih =>
    obtain ⟨next, tick', abreast⟩ := tick_abreast alike tick
    obtain ⟨e', reason', runs, later, returned, finished⟩ := ih abreast.alike same
    refine ⟨e', reason', .more tick' moved ?_ runs, abreast.trans later, returned, finished⟩
    rw [stop?_stepOver_eq_none_iff moved, ← abreast.alike.routines]
    exact (stop?_stepOver_eq_none_iff moved).1 on

/-- A step over from a debugger with frames ends on a stack of the same depth, or with nothing left.
If the top frame has not ended, it ends on the very same frames: back from a call if the statement
was a call, and otherwise after the statement. Whatever the breakpoints, it ends at the same
place. -/
theorem stepOver_keeps_depth (framed : d.routines.stack ≠ [])
    (ends : Ends .stepOver d d' (.ok reason)) :
    (d'.routines.depth = d.routines.depth ∨ d'.routines.depth = 0 ∧ reason = .finished) ∧
    (d.isEnded = false →
      d'.routines.stack = d.routines.stack ∧ reason ≠ .finished ∧
      (reason = .returned ↔ d.pendingCommand? = some .call) ∧
      (d.pendingCommand? ≠ some .call → reason = .step ∨ reason = .breakpoint) ∧
      (reason = .breakpoint → ∃ p ∈ d'.routines.position?, p ∈ d'.breakpoints)) ∧
    ∀ breakpoints, ∃ d'' reason',
      Ends .stepOver (d.withBreakpoints breakpoints) d'' (.ok reason') ∧
      Alike d' d'' ∧ d'.output = d''.output ∧
      (reason' = .returned ↔ reason = .returned) ∧ (reason' = .finished ↔ reason = .finished) := by
  obtain ⟨last, runs, rfl⟩ := (ends_iff_runs (entered?_of_stack_ne_nil framed)).1 ends
  have cases := Runs.stepOver_cases (d := d.begun .stepOver) runs framed
  refine ⟨?_, ?_, fun breakpoints => ?_⟩
  · obtain ⟨-, depth⟩ | ⟨-, stack, -⟩ := cases
    · exact depth
    · exact .inl (congrArg List.length stack)
  · intro inside
    obtain ⟨ended, -⟩ | ⟨-, stack, reasons⟩ := cases
    · exact absurd (ended.symm.trans inside) (by simp)
    · refine ⟨stack, ?_⟩
      change (d.pendingCommand? = _ ∧ _ ∨ d.pendingCommand? ≠ _ ∧ _) at reasons
      obtain ⟨call, rfl⟩ | ⟨other, rfl | ⟨rfl, hit⟩⟩ := reasons
      · exact ⟨by simp, by simp [call], by simp [call], by simp⟩
      · exact ⟨by simp, by simp [other], by simp, by simp⟩
      · exact ⟨by simp, by simp [other], by simp, fun _ => hit⟩
  · have alike : Alike (d.begun .stepOver) ((d.withBreakpoints breakpoints).begun .stepOver) :=
      ⟨rfl, rfl, rfl, rfl, rfl, rfl⟩
    obtain ⟨e', reason', runs', abreast, same⟩ := runs.stepOver_alike alike
    have framed' : (d.withBreakpoints breakpoints).routines.stack ≠ [] := framed
    obtain ⟨lines, written, written'⟩ := abreast.written
    refine ⟨e'.stopped reason', reason',
      (ends_iff_runs (entered?_of_stack_ne_nil framed')).2 ⟨e', runs', rfl⟩, ?_, ?_, same⟩
    · exact ((stopped_alike last reason).trans abreast.alike).trans (stopped_alike e' reason').symm
    · exact written.trans written'.symm

/-- The second statement of `countdown` is done, and a call is next. -/
def beforeCall : Debugger :=
  (((countdown.withBreakpoints [2]).start 40 .step).state.start 40 .step).state

/-- The breakpoint within the function does not keep the call from returning. -/
theorem beforeCall_keeps_depth :
    beforeCall.routines.stack ≠ [] ∧ beforeCall.isEnded = false ∧
      ∃ d', Ends .stepOver beforeCall d' (.ok .returned) ∧
        d'.routines.stack = beforeCall.routines.stack := by
  obtain ⟨framed, inside, result⟩ : beforeCall.routines.stack ≠ [] ∧ beforeCall.isEnded = false ∧
      (beforeCall.start 40 .stepOver).result = .ok .returned := by decide +kernel
  have ends := ends_of_result 40 .returned result
  exact ⟨framed, inside, _, ends, ((stepOver_keeps_depth framed ends).2.1 inside).1⟩

/-! ## The statements that a step over executes -/

/-- The debugger is about to execute a statement in a frame that is at most `depth` deep. -/
def isOwn (depth : Nat) (d : Debugger) : Bool :=
  d.pending?.isSome && d.routines.depth ≤ depth

/-- The frames that have ended, from the top frame on, are taken away, at most `n` of them. -/
def unwind : Nat → Debugger → Debugger
  | 0, d => d
  | n + 1, d => if d.isEnded then unwind n d.tick.1 else d

/-- The debugger without the frames that have ended, from the top frame on. -/
def unwound (d : Debugger) : Debugger :=
  d.unwind d.routines.depth

/-- Once the frames that have ended are taken away, no statement is left, or one that fails, or one
that brings the stack to `depth`, or one after which no statement is left. -/
def oneLeft (depth : Nat) (d : Debugger) : Bool :=
  match d.unwound.tick with
  | (next, .executed _) => next.routines.depth = depth || next.unwound.pending?.isNone
  | _ => true

theorem unwound_of_not_isEnded (h : d.isEnded = false) : d.unwound = d := by
  unfold unwound
  cases d.routines.depth with
  | zero => rfl
  | succ n => rw [unwind, h, if_neg Bool.false_ne_true]

theorem unwound_of_isEnded (h : d.isEnded = true) (tick : d.tick = (d', .returned)) :
    d.unwound = d'.unwound := by
  rw [unwound, ← depth_of_returned tick, unwind, if_pos h, tick]
  rfl

/-- Induction on the frames that have ended, from the top frame on. -/
@[elab_as_elim]
theorem unwindInduction {P : Debugger → Prop} (d : Debugger)
    (inside : ∀ d, d.isEnded = false → P d)
    (ended : ∀ d d', d.isEnded = true → d.tick = (d', .returned) → P d' → P d) : P d := by
  induction n : d.routines.depth generalizing d with
  | zero =>
    have empty : d.routines.stack = [] := List.length_eq_zero_iff.1 n
    exact inside d (by simp [isEnded, Routines.top?, empty])
  | succ m ih =>
    cases top : d.isEnded with
    | false => exact inside d top
    | true =>
      obtain ⟨d', tick, popped⟩ := tick_of_isEnded top
      exact ended d d' top tick (ih d' (by omega))

theorem unwound_spec (d : Debugger) :
    d.unwound.isEnded = false ∧ d.unwound.routines.depth ≤ d.routines.depth := by
  induction d using unwindInduction with
  | inside d inside =>
    rw [unwound_of_not_isEnded inside]
    exact ⟨inside, Nat.le_refl _⟩
  | ended d d' ended tick ih =>
    have popped := depth_of_returned tick
    rw [unwound_of_isEnded ended tick]
    exact ⟨ih.1, by omega⟩

/-- A step over does not pause while it takes away frames up to the depth at its start. -/
theorem exists_passes_unwound (shallow : d.routines.depth ≤ depth) :
    ∃ passed, Passes .stepOver depth d passed d.unwound := by
  induction d using unwindInduction with
  | inside d inside =>
    rw [unwound_of_not_isEnded inside]
    exact ⟨[], .refl d⟩
  | ended d d' ended tick ih =>
    have popped := depth_of_returned tick
    have on : d'.stop? .stepOver depth .returned = none :=
      (stop?_stepOver_eq_none_iff (t := .returned) trivial).2 (by omega)
    obtain ⟨passed, passes⟩ := ih (by omega)
    rw [unwound_of_isEnded ended tick]
    exact ⟨d :: passed, .step tick trivial on passes⟩

/-- Frames that have ended add nothing to the statements that are executed. -/
theorem countP_isOwn_of_unwound (h : Passes .stepOver depth d passed x)
    (bound : ∀ passed x, Passes .stepOver depth d.unwound passed x →
      (passed ++ [x]).countP (isOwn k) ≤ n) : (passed ++ [x]).countP (isOwn k) ≤ n := by
  induction h with
  | refl d =>
    cases ended : d.isEnded with
    | true => simp [isOwn, pending?_of_isEnded ended]
    | false =>
      rw [unwound_of_not_isEnded ended] at bound
      exact bound [] d (.refl d)
  | @step d d' last t passed tick moved on rest ih =>
    cases ended : d.isEnded with
    | true =>
      obtain ⟨next, tick', -⟩ := tick_of_isEnded ended
      cases tick.symm.trans tick'
      rw [unwound_of_isEnded ended tick] at bound
      have nothing : isOwn k d = false := by simp [isOwn, pending?_of_isEnded ended]
      rw [List.cons_append, List.countP_cons_of_neg (by simp [nothing])]
      exact ih bound
    | false =>
      rw [unwound_of_not_isEnded ended] at bound
      exact bound (d :: passed) last (.step tick moved on rest)

/-- If the top frame has not ended, a step over executes at most one statement of its own. -/
theorem countP_isOwn_le_one_of_inside (h : Passes .stepOver d.routines.depth d passed x)
    (inside : d.isEnded = false) : (passed ++ [x]).countP (isOwn d.routines.depth) ≤ 1 := by
  obtain ⟨rfl, rfl⟩ | ⟨rest, rfl, ⟨ended, -⟩ | ⟨-, -, above⟩⟩ := h.stepOver_cases
  · exact List.countP_le_length
  · exact absurd (ended.symm.trans inside) (by simp)
  · have none : (rest ++ [x]).countP (isOwn d.routines.depth) = 0 := by
      rw [List.countP_eq_zero]
      intro y member
      have deeper := (above y member).deeper
      simp only [isOwn, Bool.and_eq_true, decide_eq_true_eq, not_and, Nat.not_le]
      exact fun _ => deeper
    rw [List.cons_append, List.countP_cons, none]
    split <;> simp

/-- Without a statement left, a step over executes none. -/
theorem countP_isOwn_eq_zero (h : Passes .stepOver depth d passed x) (inside : d.isEnded = false)
    (nothing : d.pending? = none) : (passed ++ [x]).countP (isOwn k) = 0 := by
  cases h with
  | refl => simp [isOwn, nothing]
  | step tick moved => exact absurd moved (not_moved_of_pending?_eq_none inside nothing tick)

/-- If at most one statement is left, a step over executes at most one. -/
theorem countP_isOwn_le_one_of_oneLeft (h : Passes .stepOver depth d passed x)
    (left : d.oneLeft depth = true) : (passed ++ [x]).countP (isOwn k) ≤ 1 := by
  apply countP_isOwn_of_unwound h
  intro passed x passes
  cases passes with
  | refl => exact List.countP_le_length
  | @step _ next _ t rest tick moved on passes =>
    cases t with
    | idle | failed f => cases moved
    | returned => exact absurd ((stack_of_returned tick).1.symm.trans (unwound_spec d).1) (by simp)
    | executed id =>
      have other := (stop?_stepOver_eq_none_iff moved).1 on
      have nothing : next.unwound.pending? = none := by simpa [oneLeft, tick, other] using left
      have none : (rest ++ [x]).countP (isOwn k) ≤ 0 :=
        countP_isOwn_of_unwound passes fun _ _ passes' =>
          Nat.le_of_eq (countP_isOwn_eq_zero passes' (unwound_spec next).1 nothing)
      rw [List.cons_append, List.countP_cons, Nat.le_zero.1 none]
      split <;> simp

/-- If the top frame has ended and more than one statement is left, a step over executes two. -/
theorem exists_two_isOwn (ended : d.isEnded = true) (left : d.oneLeft d.routines.depth = false) :
    ∃ passed x, Passes .stepOver d.routines.depth d passed x ∧
      1 < (passed ++ [x]).countP (isOwn d.routines.depth) := by
  obtain ⟨d', tick, popped⟩ := tick_of_isEnded ended
  have lower : d.unwound.routines.depth < d.routines.depth := by
    have := (unwound_spec d').2
    rw [unwound_of_isEnded ended tick]
    omega
  obtain ⟨first, passes⟩ := exists_passes_unwound (Nat.le_refl d.routines.depth)
  rcases tick' : d.unwound.tick with ⟨next, t⟩
  cases t with
  | idle | failed f | returned => simp [oneLeft, tick'] at left
  | executed id =>
    obtain ⟨other, pending⟩ : next.routines.depth ≠ d.routines.depth ∧
        next.unwound.pending?.isSome = true := by
      simpa [oneLeft, tick', Option.isSome_iff_ne_none] using left
    -- Below the depth at the start the run pauses after none of the micro-steps up to the second
    -- statement: `other` says so of the first statement, and the rest takes frames away.
    have on := (stop?_stepOver_eq_none_iff (t := .executed id) trivial).2 other
    have shallow : next.routines.depth ≤ d.routines.depth := by
      have := depth_of_executed tick'
      omega
    obtain ⟨second, passes'⟩ := exists_passes_unwound shallow
    refine ⟨_, next.unwound, passes.append (.step tick' trivial on passes'), ?_⟩
    have own : isOwn d.routines.depth d.unwound = true := by
      obtain ⟨line, some_line⟩ := exists_pending_of_executed tick'
      simp [isOwn, some_line, Nat.le_of_lt lower]
    have own' : isOwn d.routines.depth next.unwound = true := by
      have := (unwound_spec next).2
      simp only [isOwn, pending, Bool.true_and, decide_eq_true_eq]
      omega
    simp only [List.countP_append, List.countP_cons, own, own', List.countP_nil, if_true]
    omega

theorem unwind_alike (alike : Alike d e) (n : Nat) : Alike (d.unwind n) (e.unwind n) := by
  induction n generalizing d e with
  | zero => exact alike
  | succ n ih =>
    rw [unwind, unwind, isEnded_congr alike.routines]
    split
    · exact ih (tick_same alike).2.alike
    · exact alike

theorem oneLeft_congr (alike : Alike d e) : d.oneLeft depth = e.oneLeft depth := by
  have unwound_alike {d e : Debugger} (alike : Alike d e) : Alike d.unwound e.unwound := by
    rw [unwound, unwound, alike.routines]
    exact unwind_alike alike _
  rcases tick : d.unwound.tick with ⟨next, t⟩
  obtain ⟨next', tick', abreast⟩ := tick_abreast (unwound_alike alike) tick
  have last := pending?_congr (unwound_alike abreast.alike).routines
  cases t <;> simp only [oneLeft, tick, tick', abreast.alike.routines, last]

theorem exists_comesTo_two (framed : d.routines.stack ≠ []) (ended : d.isEnded = true)
    (left : d.oneLeft d.routines.depth = false) :
    ∃ passed x, ComesTo .stepOver d passed x ∧
      1 < (passed ++ [x]).countP (isOwn d.routines.depth) := by
  rw [← oneLeft_congr (begun_alike .stepOver d)] at left
  obtain ⟨passed, x, passes, two⟩ := exists_two_isOwn (d := d.begun .stepOver) ended left
  exact ⟨passed, x, (comesTo_iff_of_stack_ne_nil framed).2 passes, two⟩

/-- A step over executes at most one statement of the frames that it was started on, if and only if
the top frame has not ended or the frames below have at most one statement left for it. -/
theorem stepOver_executes_at_most_one_iff (framed : d.routines.stack ≠ []) :
    (∀ passed x, ComesTo .stepOver d passed x →
        (passed ++ [x]).countP (isOwn d.routines.depth) ≤ 1) ↔
      d.isEnded = false ∨ d.oneLeft d.routines.depth = true := by
  constructor
  · intro bound
    by_contra more
    obtain ⟨ended, left⟩ := not_or.1 more
    obtain ⟨passed, x, comes, two⟩ :=
      exists_comesTo_two framed (eq_true_of_ne_false ended) (eq_false_of_ne_true left)
    exact absurd (bound passed x comes) (Nat.not_le_of_lt two)
  · rintro (inside | left) passed x comes
    · have passes := (comesTo_iff_of_stack_ne_nil framed).1 comes
      exact countP_isOwn_le_one_of_inside (d := d.begun .stepOver) passes inside
    · have passes := (comesTo_iff_of_stack_ne_nil framed).1 comes
      rw [← oneLeft_congr (begun_alike .stepOver d)] at left
      exact countP_isOwn_le_one_of_oneLeft passes left

/-- The first call of `countdown` is about to return, and another call is next. -/
def betweenCalls : Debugger :=
  Nat.repeat (fun d => (d.start 40 .step).state) 5 countdown

theorem betweenCalls_executes_at_most_one :
    betweenCalls.routines.stack ≠ [] ∧ betweenCalls.isEnded = true ∧
      ∀ passed x, ComesTo .stepOver betweenCalls passed x →
        (passed ++ [x]).countP (isOwn betweenCalls.routines.depth) ≤ 1 := by
  obtain ⟨framed, ended, left⟩ : betweenCalls.routines.stack ≠ [] ∧ betweenCalls.isEnded = true ∧
      betweenCalls.oneLeft betweenCalls.routines.depth = true := by decide +kernel
  exact ⟨framed, ended, (stepOver_executes_at_most_one_iff framed).2 (.inr left)⟩

/-- The one call of a program is about to return, and two statements come after it. -/
def callDone : Debugger :=
  (Reply.forEach (line 40) ["set code", "def f\n    set a 1\ncall f\nset b 2\nset c 3",
    "end set code", "step", "step", "step"] {}).state

/-- A step over from the end of a function can run its callers to their end. -/
theorem callDone_executes_two :
    (callDone.start 40 .stepOver).result = .ok .finished ∧
      ∃ passed x, ComesTo .stepOver callDone passed x ∧
        1 < (passed ++ [x]).countP (isOwn callDone.routines.depth) := by
  obtain ⟨framed, ended, left, result⟩ : callDone.routines.stack ≠ [] ∧ callDone.isEnded = true ∧
      callDone.oneLeft callDone.routines.depth = false ∧
      (callDone.start 40 .stepOver).result = .ok .finished := by decide +kernel
  exact ⟨result, exists_comesTo_two framed ended left⟩

end Debugger

end LineLang
