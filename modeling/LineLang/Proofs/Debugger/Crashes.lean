import LineLang.Proofs.Debugger.Passage
import LineLang.Proofs.Debugger.Pointers
import LineLang.Proofs.Debugger.Shifts
import Mathlib.Control.Monad.Basic

/-!
# Which lines crash

If no script asks for a run, then in a session every line is answered and leaves the debugger in
order, with two exceptions: a header that is typed on a frame at its end (`HeaderAtEnd`), and a
statement with a number of too many digits, typed or met by a run (`MeetsOverlong`). These two do
crash (`session_settles_iff`).
-/

namespace LineLang

namespace Debugger

variable {d d' e : Debugger} {t : Tick} {id : RoutineId} {mode : RunMode} {depth count : Nat}
  {text line : String} {o : Outcome} {f : Failure} {reply : Reply Debugger Unit}

/-! ## Programs that start no run -/

/-- The line is a statement that starts a run. -/
def startsRun (line : String) : Bool :=
  match commandOf? line with
  | some (.resume _) => true
  | _ => false

/-- No line starts a run. -/
def StartFree (lines : List String) : Prop :=
  ∀ line ∈ lines, startsRun line = false

instance (lines : List String) : Decidable (StartFree lines) :=
  inferInstanceAs (Decidable (∀ line ∈ lines, startsRun line = false))

/-- Neither the program of the script nor the body of a function has a line that starts a run. -/
def AsksForNoRun (script : List String) : Prop :=
  StartFree script ∧ StartFree (script.filterMap Text.dedent?)

instance (script : List String) : Decidable (AsksForNoRun script) :=
  inferInstanceAs (Decidable (_ ∧ _))

/-- No routine has a statement that starts a run. -/
def NeverRestarts (d : Debugger) : Prop :=
  ∀ id, StartFree (d.routines.routine id).lines

theorem commandOf?_ne_resume (h : startsRun line = false) (mode : RunMode) :
    commandOf? line ≠ some (.resume mode) := by
  intro resume
  unfold startsRun at h
  rw [resume] at h
  cases h

/-- A statement does not change the lines of a routine. -/
theorem lines_execute (d : Debugger) (line : String) (id : RoutineId) :
    ((d.execute line).state.routines.routine id).lines = (d.routines.routine id).lines := by
  obtain same | ⟨-, skipped⟩ | ⟨-, name, f, -, pushed⟩ := (execute_effect d line).routines_cases
  · rw [same]
  · rw [skipped, Debugger.skipBody]
    split
    · rfl
    · next top _ =>
      obtain same | ⟨rfl, changed⟩ := d.routines.routine_modify_cases top id
        fun _ => (d.routines.routine top).skipBody.state
      · exact congrArg Routine.lines same
      · exact (congrArg Routine.lines changed).trans (Routine.lines_skipBody _)
  · rw [pushed]
    rfl

namespace NeverRestarts

theorem congr (h : NeverRestarts d) (routines : e.routines = d.routines) : NeverRestarts e := by
  intro id
  rw [routines]
  exact h id

theorem tick (h : NeverRestarts d) (tick : d.tick = (d', t)) : NeverRestarts d' := by
  intro id
  rw [lines_tick tick]
  exact h id

theorem entered (h : NeverRestarts d) (entered : d.entered? = some e) : NeverRestarts e := by
  obtain ⟨id, -, -, rfl⟩ | ⟨-, rfl⟩ := entered_cases entered
  · exact h
  · exact h

theorem ends (h : NeverRestarts d) (ends : Ends mode d d' o) : NeverRestarts d' :=
  ends.keeps h (fun kept alike => kept.congr alike.routines) NeverRestarts.entered
    NeverRestarts.tick

theorem load (h : NeverRestarts d) {payload : String}
    (free : AsksForNoRun (Text.scriptLines payload)) : NeverRestarts (d.load payload).state := by
  intro id line member
  obtain same | new := (load_extends d payload).routine_cases id
  · rw [same] at member
    exact h id line member
  · obtain member | ⟨whole, member, dedented⟩ := new.foundIn.source line member
    · exact free.1 line member
    · exact free.2 line (List.mem_filterMap.2 ⟨whole, member, dedented⟩)

/-- A line keeps it so, unless it loads a script that asks for a run. -/
theorem response (h : NeverRestarts d) (response : Response text d reply)
    (free : d.phase = .waiting → AsksForNoRun (Text.scriptLines text)) :
    NeverRestarts reply.state := by
  cases response with
  | load waiting => exact h.load (free waiting)
  | execute =>
    intro id
    rw [lines_execute]
    exact h id
  | resume mode ready command ends => exact h.ends ends

end NeverRestarts

/-! ## Failures of statements -/

/-- A statement that fails changes nothing. It is faulty, or has a number that is too long. -/
theorem InOrder.execute_failed (h : InOrder d)
    (fits : commandOf? line = some .skipBody → d.isEnded = false)
    (other : ∀ mode, commandOf? line ≠ some (.resume mode))
    (failed : (d.execute line).result = .error f) :
    (∃ fault, f = .fault fault) ∨ ∃ count, d.Overlong line count := by
  have effect := execute_effect d line
  generalize d.execute line = reply at effect failed
  cases effect with
  | refuse fault =>
    cases failed
    exact .inl ⟨fault, rfl⟩
  | tooLong count overlong => exact .inr ⟨count, overlong⟩
  | skipBody args parsed =>
    rw [(h.skipBody (fits (commandOf?_of_parse parsed))).1] at failed
    cases failed
  | resume mode args parsed => exact absurd (commandOf?_of_parse parsed) (other mode)
  | _ => cases failed

/-- A micro-step that fails is at a statement that is faulty or has a number that is too long. -/
theorem InOrder.tick_failed (h : InOrder d) (never : NeverRestarts d)
    (tick : d.tick = (d', .failed f)) :
    (∃ fault, f = .fault fault) ∨
      ∃ line count, d.pending? = some line ∧ d.Overlong line count := by
  have moves := tick ▸ tick_moves d
  cases moves with
  | astray id rest stack inside nothing =>
    obtain ⟨r, found, within⟩ := h.inside stack inside
    obtain ⟨line, statement⟩ := within.exists_statement
    rw [routine_of_find? found, statement] at nothing
    cases nothing
  | fail id rest line f stack inside pending failed =>
    have other := commandOf?_ne_resume (never id line (Routine.mem_of_statement? pending))
    obtain fault | ⟨count, overlong⟩ :=
      h.execute_failed (fun _ => (isEnded_of_stack stack).trans inside) other failed
    · exact .inl fault
    · exact .inr ⟨line, count, (pending?_of_stack stack inside).trans pending, overlong⟩

/-- A header has nothing to pass over where the frame has ended. -/
theorem execute_of_headerAtEnd (header : commandOf? text = some .skipBody)
    (ended : d.isEnded = true) : (d.execute text).result = .error (.crash .noStatement) := by
  obtain ⟨args, parsed⟩ := parse_of_commandOf? header
  rw [execute_of_parse d parsed, perform, Debugger.skipBody]
  cases stack : d.routines.stack with
  | nil => simp [isEnded, Routines.top?, stack] at ended
  | cons id rest =>
    rw [isEnded_of_stack stack] at ended
    simp only [Routines.top?, stack, List.head?_cons, Routine.skipBody_of_atEnd ended]
    rfl

theorem startsRun_of_overlong (overlong : d.Overlong line count) : startsRun line = false := by
  obtain ⟨token, converts, -⟩ := overlong
  unfold startsRun
  cases converts with
  | @onVariables c args token parsed =>
    rw [commandOf?_of_parse (c := .session (.onVariables c)) parsed]
  | addBreak parsed => rw [commandOf?_of_parse parsed]

/-- A statement with a number that is too long fails, and nothing changes. -/
theorem tick_of_overlong (pending : d.pending? = some line) (overlong : d.Overlong line count) :
    d.tick = (d, .failed (.crash (.tooManyDigits count))) := by
  cases stack : d.routines.stack with
  | nil =>
    rw [pending?_of_stack_nil stack] at pending
    cases pending
  | cons id rest =>
    cases ended : (d.routines.routine id).atEnd with
    | true =>
      rw [pending?_of_isEnded ((isEnded_of_stack stack).trans ended)] at pending
      cases pending
    | false =>
      rw [pending?_of_stack stack ended] at pending
      simp [tick, Routines.top?, stack, ended, pending, execute_of_overlong overlong, Reply.crash]

/-! ## Lines -/

/-- Typing the line leads to a statement with a number that is too long. -/
inductive MeetsOverlong (text : String) (d : Debugger) : Prop
  | typed {count : Nat} (ready : d.phase ≠ .waiting) (overlong : d.Overlong text count)
  | running {mode : RunMode} {passed : List Debugger} {last : Debugger} {line : String}
      {count : Nat} (ready : d.phase ≠ .waiting) (command : commandOf? text = some (.resume mode))
      (comes : ComesTo mode d passed last) (pending : last.pending? = some line)
      (overlong : last.Overlong line count)

/-- A line with neither of the two is carried out or faulty. -/
theorem Response.settles (response : Response text d reply) (h : InOrder d)
    (never : NeverRestarts d) (fits : ¬ d.HeaderAtEnd text) (short : ¬ d.MeetsOverlong text) :
    reply.result = .ok () ∨ ∃ fault, reply.result = .error (.fault fault) := by
  cases response with
  | load => exact load_result d text
  | execute ready other =>
    cases done : (d.execute text).result with
    | ok => exact .inl rfl
    | error f =>
      have inside (header : commandOf? text = some .skipBody) : d.isEnded = false :=
        Bool.eq_false_iff.2 fun ended => fits ⟨ready, header, ended⟩
      obtain ⟨fault, rfl⟩ | ⟨count, overlong⟩ := h.execute_failed inside other done
      · exact .inr ⟨fault, rfl⟩
      · exact absurd (.typed ready overlong) short
  | @resume mode ready command d' o ends =>
    cases o with
    | ok reason => exact .inl rfl
    | error f =>
      cases entered : d.entered? with
      | none =>
        cases ((ends_iff_of_entered_none entered).1 ends).2
        exact .inr ⟨.noProgram, rfl⟩
      | some e =>
        obtain ⟨last, runs, -⟩ := (ends_iff_runs entered).1 ends
        obtain ⟨passed, last, passes, concludes⟩ := runs_iff_passes.1 runs
        have first : InOrder (e.begun mode) ∧ NeverRestarts (e.begun mode) :=
          ⟨(h.entered entered).of_alike (begun_alike mode e), (never.entered entered).congr rfl⟩
        -- The invariants reach the state from which the last micro-step was made.
        obtain ⟨inOrder, never⟩ := passes.keeps (P := fun y => InOrder y ∧ NeverRestarts y) first
          (fun kept tick _ _ => ⟨kept.1.tick tick, kept.2.tick tick⟩) last (by simp)
        cases concludes with
        | fail tick =>
          obtain ⟨fault, rfl⟩ | ⟨line, count, pending, overlong⟩ := inOrder.tick_failed never tick
          · exact .inr ⟨fault, rfl⟩
          · exact absurd (.running ready command ⟨e, entered, passes⟩ pending overlong) short

/-- A line with one of the two crashes. -/
theorem Response.crashes (response : Response text d reply)
    (bad : d.HeaderAtEnd text ∨ d.MeetsOverlong text) :
    ∃ c, reply.result = .error (.crash c) := by
  cases response with
  | load waiting =>
    obtain ⟨ready, -⟩ | ⟨ready, -⟩ | ⟨ready, -⟩ := bad
    all_goals exact absurd waiting ready
  | execute ready other =>
    obtain ⟨-, header, ended⟩ | ⟨-, overlong⟩ | ⟨-, command, -⟩ := bad
    · exact ⟨_, execute_of_headerAtEnd header ended⟩
    · exact ⟨_, by rw [execute_of_overlong overlong]; rfl⟩
    · exact absurd command (other _)
  | resume mode ready command ends =>
    obtain ⟨-, header, -⟩ | ⟨-, overlong⟩ | ⟨-, command', comes, pending, overlong⟩ := bad
    · cases header.symm.trans command
    · exact absurd command (commandOf?_ne_resume (startsRun_of_overlong overlong) mode)
    · cases command.symm.trans command'
      obtain ⟨e, entered, passes⟩ := comes
      obtain ⟨last, runs, -⟩ := (ends_iff_runs entered).1 ends
      have fails := runs_iff_passes.2 ⟨_, _, passes, .fail (tick_of_overlong pending overlong)⟩
      rw [(runs.unique fails).2]
      exact ⟨_, rfl⟩

/-! ## Sessions -/

theorem Serves.answers {turns : List Turn} (h : Serves d turns) :
    ∀ t ∈ turns, Answers t.text t.before t.after t.answer := by
  induction h with
  | done => simp
  | turn answers _ ih =>
    intro t member
    obtain rfl | member := List.mem_cons.1 member
    · exact answers
    · exact ih t member

theorem Serves.settles {turns : List Turn} (serves : Serves d turns) (h : InOrder d)
    (never : NeverRestarts d)
    (free : ∀ t ∈ turns, t.before.phase = .waiting → AsksForNoRun (Text.scriptLines t.text))
    (fine : ∀ t ∈ turns, ¬ t.before.HeaderAtEnd t.text ∧ ¬ t.before.MeetsOverlong t.text) :
    ∀ t ∈ turns, (∃ result, t.answer = .ok result) ∧ InOrder t.after := by
  induction serves with
  | done => simp
  | @turn t turns answers _ ih =>
    obtain ⟨reply, response, settled⟩ := answers.exists_response
    obtain ⟨fits, short⟩ := fine t List.mem_cons_self
    have alike : Alike t.after reply.state := by
      have := settled_alike t.text reply
      rwa [settled] at this
    have inOrder : InOrder t.after := (h.response response fits).of_alike alike
    have never' : NeverRestarts t.after :=
      (never.response response (free t List.mem_cons_self)).congr alike.routines
    intro t' member
    obtain rfl | member := List.mem_cons.1 member
    · obtain ⟨result, answered⟩ :=
        exists_result_of_settled (response.settles h never fits short)
      rw [settled] at answered
      exact ⟨⟨result, answered⟩, inOrder⟩
    · exact ih inOrder never' (fun t later => free t (List.mem_cons_of_mem _ later))
        (fun t later => fine t (List.mem_cons_of_mem _ later)) t' member

theorem Answers.crashes {a : Answer} (answers : Answers text d d' a)
    (bad : d.HeaderAtEnd text ∨ d.MeetsOverlong text) : ∃ c, a = .error (.crash c) := by
  obtain ⟨reply, response, settled⟩ := answers.exists_response
  obtain ⟨c, crash⟩ := response.crashes bad
  rw [settled_of_crash crash] at settled
  cases settled
  exact ⟨c, rfl⟩

/-- If no script asks for a run, every line of a session is answered with a result and leaves every
pointer in range, if and only if no header is typed on a frame that has ended and no line leads to a
statement with a number that is too long. -/
theorem session_settles_iff {strict : Bool} {turns : List Turn} (serves : Serves { strict } turns)
    (free : ∀ t ∈ turns, t.before.phase = .waiting → AsksForNoRun (Text.scriptLines t.text)) :
    (∀ t ∈ turns, (∃ result, t.answer = .ok result) ∧ InOrder t.after) ↔
      ∀ t ∈ turns, ¬ t.before.HeaderAtEnd t.text ∧ ¬ t.before.MeetsOverlong t.text := by
  constructor
  · intro settles t member
    obtain ⟨⟨result, answered⟩, -⟩ := settles t member
    have fine : ¬ (t.before.HeaderAtEnd t.text ∨ t.before.MeetsOverlong t.text) := by
      intro bad
      obtain ⟨c, crashed⟩ := (serves.answers t member).crashes bad
      cases answered.symm.trans crashed
    exact not_or.1 fine
  · exact serves.settles (inOrder_fresh strict) (fun id line member => by cases member) free

/-- A program is paused at its first statement when a header is typed, and runs to its end. -/
def pausedHeader : List Turn :=
  session 40 ["set code", "def f\n    set a 1\ncall f", "end set code", "step", "def g", "run"] {}

theorem pausedHeader_settles :
    Serves {} pausedHeader ∧
      ∀ t ∈ pausedHeader, (∃ result, t.answer = .ok result) ∧ InOrder t.after := by
  obtain ⟨answered, free⟩ : (∀ t ∈ pausedHeader, t.answer = .ok .success) ∧ ∀ t ∈ pausedHeader,
      t.before.phase = .waiting → AsksForNoRun (Text.scriptLines t.text) := by decide +kernel
  have serves : Serves {} pausedHeader :=
    serves_session fun t member => by rw [answered t member]; simp
  refine ⟨serves, (session_settles_iff serves free).2 fun t member => not_or.1 fun bad => ?_⟩
  obtain ⟨c, crashed⟩ := (serves.answers t member).crashes bad
  cases (answered t member).symm.trans crashed

/-- A header is typed when the program is paused at its end. -/
def endedHeader : List Turn :=
  session 40 ["set code", "set a 1", "end set code", "step", "def f"] {}

/-- The line crashes, and the pointer of the program is beyond its end. -/
theorem endedHeader_crashes :
    Serves {} endedHeader ∧
    (∀ t ∈ endedHeader, t.before.phase = .waiting → AsksForNoRun (Text.scriptLines t.text)) ∧
    ∃ t ∈ endedHeader, t.answer = .error (.crash .noStatement) ∧ ¬ InOrder t.after := by
  obtain ⟨definite, free⟩ : (∀ t ∈ endedHeader, t.answer ≠ .error .unfinished) ∧
      ∀ t ∈ endedHeader, t.before.phase = .waiting → AsksForNoRun (Text.scriptLines t.text) := by
    decide +kernel
  refine ⟨serves_session definite, free, ?_⟩
  refine ⟨_, List.mem_of_getElem? (i := 4) rfl, by decide +kernel, fun inOrder => ?_⟩
  have range := inOrder.inRange (.program 0) ⟨"main", ["set a 1"], 0, 2⟩ (by decide +kernel)
  exact absurd range.2 (by decide)

end Debugger

end LineLang
