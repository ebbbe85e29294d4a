import LineLang.Proofs.Debugger.Runs
import Mathlib.Control.Monad.Basic

/-!
# Schedules

A program can be run at once, or in any number of starts with modes and breakpoints of one's choice.
All ways lead along the same course of micro-steps, so they write the same lines and end in
debuggers that are alike: modes and breakpoints choose only where to pause
(`completed_schedules_agree`).
-/

namespace LineLang

namespace Debugger

variable {d d' e s : Debugger} {mode : RunMode}

/-- One start of a schedule: its mode, and the breakpoints that are in place when it begins. -/
structure Resumption where
  mode : RunMode
  breakpoints : List Int
  deriving DecidableEq, Repr

/-- The debugger with other breakpoints. -/
def withBreakpoints (d : Debugger) (breakpoints : List Int) : Debugger :=
  { d with breakpoints }

/-- `Completes s starts pauses d` says that the starts, made one after the other from `s` on, pause
in `pauses`, that the last of them is the first to finish, and that it does so in `d`. -/
inductive Completes : Debugger → List Resumption → List Debugger → Debugger → Prop
  | finish {d d' : Debugger} {r : Resumption}
      (ends : Ends r.mode (d.withBreakpoints r.breakpoints) d' (.ok .finished)) :
      Completes d [r] [] d'
  | pause {d d' final : Debugger} {r : Resumption} {reason : StopReason}
      {starts : List Resumption} {pauses : List Debugger}
      (ends : Ends r.mode (d.withBreakpoints r.breakpoints) d' (.ok reason))
      (paused : reason ≠ .finished) (rest : Completes d' starts pauses final) :
      Completes d (r :: starts) (d' :: pauses) final

/-- `d` is a state on the course of micro-steps from `e` on, up to what no statement reads. -/
def OnCourse (e d : Debugger) : Prop :=
  ∃ n c, Advances n e c ∧ Alike d c ∧ d.output = c.output

/-! ## One start -/

theorem entered?_withBreakpoints (d : Debugger) (breakpoints : List Int) :
    (d.withBreakpoints breakpoints).entered? =
      d.entered?.map (·.withBreakpoints breakpoints) := by
  unfold entered?
  change (if d.routines.stack.isEmpty then d.program?.map _ else _) = _
  split
  · cases d.program? <;> rfl
  · rfl

theorem entered_withBreakpoints (entered : d.entered? = some e) (breakpoints : List Int) :
    (d.withBreakpoints breakpoints).entered? = some (e.withBreakpoints breakpoints) := by
  rw [entered?_withBreakpoints, entered, Option.map_some]

theorem withBreakpoints_alike (d : Debugger) (breakpoints : List Int) :
    Alike (d.withBreakpoints breakpoints) d :=
  ⟨rfl, rfl, rfl, rfl, rfl, rfl⟩

/-- A start goes on from a state of the course to a later one. It finishes on an empty stack and
pauses on one that has a frame. -/
theorem Ends.onCourse {breakpoints : List Int} {reason : StopReason}
    (h : Ends mode (d.withBreakpoints breakpoints) d' (.ok reason)) (entered : d.entered? = some e)
    {c : Debugger} (alike : Alike e c) (output : e.output = c.output) :
    ∃ n c', Advances n c c' ∧ Alike d' c' ∧ d'.output = c'.output ∧
      (reason = .finished → c'.routines.stack = []) ∧
      (reason ≠ .finished → d'.routines.stack ≠ []) := by
  have entered' := entered_withBreakpoints entered breakpoints
  obtain ⟨last, runs, rfl⟩ := (ends_iff_runs entered').1 h
  obtain ⟨n, advances⟩ := runs.exists_advances
  have same : Alike ((e.withBreakpoints breakpoints).begun mode) c :=
    ((begun_alike _ _).trans (withBreakpoints_alike e breakpoints)).trans alike
  obtain ⟨c', advances', abreast⟩ := advances.abreast same
  obtain ⟨lines, written, written'⟩ := abreast.written
  refine ⟨n, c', advances', (stopped_alike last reason).trans abreast.alike, ?_, ?_, ?_⟩
  · calc (last.stopped reason).output = last.output := rfl
      _ = e.output.addAll lines := written
      _ = c'.output := by rw [output, written']
  · rintro rfl
    rw [← abreast.alike.routines]
    exact runs.stack_of_finished
  · intro paused
    exact runs.stack_of_paused (depth_pos_of_entered entered') paused

theorem Ends.entered {breakpoints : List Int} {reason : StopReason}
    (h : Ends mode (d.withBreakpoints breakpoints) d' (.ok reason)) :
    ∃ e, d.entered? = some e := by
  cases entered : d.entered? with
  | some e => exact ⟨e, rfl⟩
  | none =>
    have none' : (d.withBreakpoints breakpoints).entered? = none := by
      rw [entered?_withBreakpoints, entered, Option.map_none]
    cases ((ends_iff_of_entered_none none').1 h).2

/-! ## Schedules -/

theorem OnCourse.of_advances {n : Nat} {c : Debugger} (h : Advances n e c)
    (later : OnCourse c d) : OnCourse e d := by
  obtain ⟨m, c', advances, alike, output⟩ := later
  exact ⟨n + m, c', h.trans advances, alike, output⟩

namespace Completes

variable {starts : List Resumption} {pauses : List Debugger}

theorem entered (h : Completes s starts pauses d) : ∃ e, s.entered? = some e := by
  cases h with
  | finish ends | pause ends => exact ends.entered

/-- Every pause of a schedule is on the course, and the schedule ends where the course does. -/
theorem onCourse (h : Completes s starts pauses d) (entered : s.entered? = some e) {c : Debugger}
    (alike : Alike e c) (output : e.output = c.output) :
    (∀ p ∈ pauses, OnCourse c p) ∧
      ∃ n last, Advances n c last ∧ last.routines.stack = [] ∧ Alike d last ∧
        d.output = last.output := by
  -- `c` moves along the course from pause to pause; the frames that a pause leaves are entered as
  -- they are by the next start.
  induction h generalizing e c with
  | finish ends =>
    obtain ⟨n, last, advances, alike', output', empty, -⟩ := ends.onCourse entered alike output
    exact ⟨by simp, n, last, advances, empty rfl, alike', output'⟩
  | pause ends paused _ ih =>
    obtain ⟨n, c', advances, alike', output', -, frames⟩ := ends.onCourse entered alike output
    obtain ⟨later, m, last, advances', empty, alike'', output''⟩ :=
      ih (entered?_of_stack_ne_nil (frames paused)) alike' output'
    refine ⟨?_, n + m, last, advances.trans advances', empty, alike'', output''⟩
    intro p member
    obtain rfl | member := List.mem_cons.1 member
    · exact ⟨n, c', advances, alike', output'⟩
    · exact (later p member).of_advances advances

end Completes

/-- Two schedules that run a program to its end from one debugger write the same lines and leave
debuggers that are alike, and all their pauses are on the one course of micro-steps. -/
theorem completed_schedules_agree {starts₁ starts₂ : List Resumption}
    {pauses₁ pauses₂ : List Debugger} {d₁ d₂ : Debugger}
    (first : Completes s starts₁ pauses₁ d₁) (second : Completes s starts₂ pauses₂ d₂) :
    (∃ lines, d₁.output.toList = s.output.toList ++ lines ∧
      d₂.output.toList = s.output.toList ++ lines) ∧
    Alike d₁ d₂ ∧
    ∃ e, s.entered? = some e ∧ (∀ p ∈ pauses₁, OnCourse e p) ∧ ∀ p ∈ pauses₂, OnCourse e p := by
  obtain ⟨e, entered⟩ := first.entered
  obtain ⟨course₁, n₁, last₁, advances₁, empty₁, alike₁, output₁⟩ :=
    first.onCourse entered (.refl e) rfl
  obtain ⟨course₂, n₂, last₂, advances₂, empty₂, alike₂, output₂⟩ :=
    second.onCourse entered (.refl e) rfl
  obtain rfl : last₁ = last₂ := advances₁.eq_of_stack_nil advances₂ empty₁ empty₂
  obtain ⟨lines, written⟩ := advances₁.exists_output
  rw [output_of_entered entered] at written
  refine ⟨⟨lines, ?_, ?_⟩, alike₁.trans alike₂.symm, e, entered, course₁, course₂⟩
  · rw [output₁, written]
  · rw [output₂, written]

/-- A program that calls a function twice. -/
def countdown : Debugger :=
  (load "def f\n    sub a 2\n    print a\nset a 9\ncall f\ncall f\nprint mem" {}).state

/-- At once, or with a breakpoint within the function and steps around it. -/
theorem countdown_schedules_agree :
    ∃ pauses d₁ d₂, Completes countdown [⟨.run, [6]⟩, ⟨.run, []⟩] pauses d₁ ∧
      (∃ pauses', Completes countdown
        [⟨.stepOver, []⟩, ⟨.run, [2]⟩, ⟨.step, [4]⟩, ⟨.stepOver, []⟩, ⟨.run, [0]⟩] pauses' d₂) ∧
      Alike d₁ d₂ ∧ d₁.output.toList = d₂.output.toList := by
  have first : Completes countdown [⟨.run, [6]⟩, ⟨.run, []⟩] _ _ :=
    .pause (ends_of_result 40 .breakpoint (by decide +kernel)) StopReason.noConfusion <|
    .finish (ends_of_result 40 .finished (by decide +kernel))
  have second : Completes countdown
      [⟨.stepOver, []⟩, ⟨.run, [2]⟩, ⟨.step, [4]⟩, ⟨.stepOver, []⟩, ⟨.run, [0]⟩] _ _ :=
    .pause (ends_of_result 40 .step (by decide +kernel)) StopReason.noConfusion <|
    .pause (ends_of_result 40 .breakpoint (by decide +kernel)) StopReason.noConfusion <|
    .pause (ends_of_result 40 .step (by decide +kernel)) StopReason.noConfusion <|
    .pause (ends_of_result 40 .step (by decide +kernel)) StopReason.noConfusion <|
    .finish (ends_of_result 40 .finished (by decide +kernel))
  obtain ⟨⟨lines, written, written'⟩, alike, -⟩ := completed_schedules_agree first second
  exact ⟨_, _, _, first, ⟨_, second⟩, alike, written.trans written'.symm⟩

end Debugger

end LineLang
