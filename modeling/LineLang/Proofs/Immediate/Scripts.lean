import LineLang.Proofs.Immediate.Course
import LineLang.Proofs.Immediate.Unread

/-!
# A script acts as if its lines were typed

Carrying out a statement never reads the phase or the log. So two interpreters that differ in these
only carry out the same statements in the same way (`statement_rephase`). Between two lines that are
typed the phase decides whether the second is taken as code: it is not, as long as no statement has
asked for code (`StaysReady`). Hence a script does what its lines do if they are typed one by one
(`script_acts_as_typed`).
-/

namespace LineLang

/-! ## Other phases and logs -/

/-- The commands of every session do not read the phase and the log. -/
theorem SessionCommand.perform_rephased (c : SessionCommand) (args : List String)
    (outside : Option Int) (s : Session) (phase : Phase) (log : Record Event) :
    ∃ phase' log', c.perform args outside { s with phase, log } =
      (c.perform args outside s).map fun s => { s with phase := phase', log := log' } := by
  cases c with
  | onVariables c =>
    refine ⟨phase, log, ?_⟩
    rw [perform_onVariables, perform_onVariables]
    change Except.map _ (c.perform args (s.positionOr outside) s.vars) = _
    cases c.perform args (s.positionOr outside) s.vars <;> rfl
  | setCode =>
    obtain ⟨log', other⟩ := Session.requestCode_eq { s with phase, log }
    obtain ⟨_, first⟩ := s.requestCode_eq
    refine ⟨.waiting, log', ?_⟩
    simp only [perform, other, first]
    rfl
  | endSetCode =>
    obtain ⟨log', other⟩ := Session.enter_eq { s with phase, log, requested := false } .ready
    obtain ⟨_, first⟩ := Session.enter_eq { s with requested := false } .ready
    refine ⟨.ready, log', ?_⟩
    simp only [perform, Session.endCode, other, first]
    split <;> rfl

/-- The phase and the log of a session are not read. -/
theorem Session.unread_rephased :
    Session.Unread fun s t => ∃ phase log, t = { s with phase, log } where
  workspace := by
    rintro s _ ⟨phase, log, rfl⟩
    rfl
  setWorkspace := by
    rintro s _ ⟨phase, log, rfl⟩ w
    exact ⟨phase, log, rfl⟩
  note := by
    rintro s _ ⟨phase, log, rfl⟩ event
    exact ⟨phase, log.add event, rfl⟩
  perform := by
    rintro s _ ⟨phase, log, rfl⟩ c args outside
    obtain ⟨phase', log', performed⟩ := c.perform_rephased args outside s phase log
    rw [performed]
    cases c.perform args outside s with
    | error f => exact .inl ⟨f, rfl, rfl⟩
    | ok s' => exact .inr ⟨s', _, rfl, rfl, phase', log', rfl⟩

namespace Immediate

variable {i j : Immediate} {line : String}

/-- The interpreter in another phase and with another log. -/
def rephase (phase : Phase) (log : Record Event) (i : Immediate) : Immediate :=
  { i with phase, log }

theorem statement_rephase (line : String) (i : Immediate) (phase : Phase) (log : Record Event) :
    ∃ phase' log', (i.rephase phase log).statement line =
      (i.statement line).mapState (rephase phase' log') := by
  have parallel : Parallel (fun s t => ∃ phase log, t = { s with phase, log }) i
      (i.rephase phase log) := ⟨⟨phase, log, rfl⟩, rfl, rfl⟩
  have same := statement_parallel Session.unread_rephased line parallel
  obtain ⟨phase', log', session⟩ := same.state.session
  refine ⟨phase', log', Reply.related_image_iff.1 ⟨same.result, same.state.eq.trans ?_⟩⟩
  rw [session]
  rfl

/-! ## Asking for code -/

/-- The line is a statement that asks for code. -/
def asksForCode (line : String) : Bool :=
  match vocabulary.parse line with
  | .ok statement => statement.command = SessionCommand.setCode.name
  | .error _ => false

/-- If there was code, and no statement on the way has asked for more, then the next line is not
taken as code. -/
def StaysReady (i : Immediate) (reply : Reply Immediate Unit) (trace : List (String × Immediate)) :
    Prop :=
  i.phase = .ready → (∀ s ∈ trace, asksForCode s.1 = false) → reply.state.phase = .ready

theorem Alters.phase (h : Alters i line j) (silent : asksForCode line = false)
    (ready : i.phase = .ready) : j.phase = .ready := by
  cases h with
  | onVariables | define | idle => exact ready
  | setCode args parsed => simp [asksForCode, parsed] at silent
  | endSetCode args parsed s closed =>
    obtain ⟨log, rfl⟩ := Session.eq_of_endCode closed
    rfl

theorem staysReady_invariant : CourseInvariant StaysReady where
  done i ready _ := ready
  unfinished i ready _ := ready
  single {i line} act bare ready silent := by
    have effect := dispatch_effect act i line
    generalize i.dispatch act line = reply at effect
    cases effect with
    | refuse | tooLong => exact ready
    | alter j alters => exact alters.phase (silent (line, i) List.mem_cons_self) ready
    | call name r enters =>
      rw [enters?_eq_some_iff.2 enters] at bare
      cases bare
  enter _ h ready silent := h ready fun s member => silent s (List.mem_cons_of_mem _ member)
  congr h _ phase _ ready := h (phase.trans ready)
  onRoutines _ h ready silent := h ready silent
  andThen {i reply trace next after} h later ready silent := by
    have first := h ready fun s member => silent s (List.mem_append_left _ member)
    obtain ⟨middle, result⟩ := reply
    cases result with
    | error f => exact first
    | ok _ => exact later first fun s member => silent s (List.mem_append_right _ member)

/-! ## Typing the lines of a script -/

/-- Types lines one by one up to the first that is not carried out, and replies to the last one. -/
def typeUpToFailure : List String → Immediate → Reply Immediate LineResult
  | [], i => .ok i .success
  | line :: rest, i =>
    match (i.line line).result with
    | .ok .success => typeUpToFailure rest (i.line line).state
    | _ => i.line line

/-- The statements that these lines come to. -/
def typedCourse : List String → Immediate → List (String × Immediate)
  | [], _ => []
  | line :: rest, i =>
    i.lineCourse line ++
      match (i.line line).result with
      | .ok .success => typedCourse rest (i.line line).state
      | _ => []

/-- Typing lines comes to what they come to as statements of a script, and the report of a fault. -/
theorem typeUpToFailure_rephased (lines : List String) (i : Immediate) (log : Record Event)
    (silent : ∀ s ∈ typedCourse lines (i.rephase .ready log), asksForCode s.1 = false) :
    ∃ phase' log' text, typeUpToFailure lines (i.rephase .ready log) =
      ((statements lines i).mapState (rephase phase' log')).settle
        fun f i => i.onSession (·.report text f) := by
  induction lines generalizing i log with
  | nil => exact ⟨.ready, log, "", rfl⟩
  | cons line rest ih =>
    obtain ⟨phase', log', same⟩ := statement_rephase line i.count .ready log
    have counted : (i.rephase .ready log).count = i.count.rephase .ready log := rfl
    have typed : (i.rephase .ready log).line line =
        ((i.count.statement line).mapState (rephase phase' log')).settle
          fun f i => i.onSession (·.report line f) := by
      rw [Immediate.line, if_neg (by simp [rephase]), counted, ← same]
    have course : (i.rephase .ready log).lineCourse line =
        (i.rephase .ready log).count.statementCourse line := by
      rw [lineCourse, if_neg (by simp [rephase])]
    rw [typedCourse, course, typed] at silent
    have stays := staysReady_invariant.statement line (i.rephase .ready log) rfl
      fun s member => silent s (List.mem_append_left _ member)
    rw [counted, same] at stays
    rw [typeUpToFailure, typed, statements]
    generalize i.count.statement line = reply at silent stays
    obtain ⟨next, result⟩ := reply
    cases result with
    | error f =>
      refine ⟨phase', log', line, ?_⟩
      cases f <;> rfl
    | ok _ =>
      obtain rfl : phase' = .ready := stays
      exact ih next log' fun s member => silent s (List.mem_append_right _ member)

/-- The replies have the same result, and the states the same output, variables with the position of
their last change, functions and position. -/
structure ActsLike (reply reply' : Reply Immediate LineResult) : Prop where
  result : reply.result = reply'.result
  output : reply.state.output = reply'.state.output
  vars : reply.state.vars = reply'.state.vars
  routines : reply.state.routines = reply'.state.routines
  position : reply.state.position = reply'.state.position

/-- A line that is taken as code acts like the lines of the script if they are typed one by one from
the state in which there is code, up to the first that fails. This holds if no statement on the way
asks for code. Afterwards no function is open and there is code. -/
theorem script_acts_as_typed (i : Immediate) (payload : String) (waiting : i.phase = .waiting)
    (silent : ∀ s ∈ typedCourse (Text.scriptLines payload) { i with phase := .ready },
      asksForCode s.1 = false) :
    ActsLike (i.line payload)
      (typeUpToFailure (Text.scriptLines payload) { i with phase := .ready }) ∧
    (i.line payload).state.opened = none ∧ (i.line payload).state.phase = .ready := by
  obtain ⟨phase, log, text, typed⟩ := typeUpToFailure_rephased _ i i.log silent
  have same : i.rephase .ready i.log = { i with phase := .ready } := rfl
  rw [← same, typed, Immediate.line, if_pos waiting, load]
  generalize statements (Text.scriptLines payload) i = reply
  obtain ⟨last, result⟩ := reply
  obtain ⟨log', entered⟩ := last.toSession.enter_eq .ready
  have closed : ({ last with opened := none } : Immediate).onSession (·.enter .ready) =
      { last with opened := none, phase := .ready, log := log' } := by
    rw [onSession, entered]
  simp only [Reply.mapState, closed]
  -- Whatever the outcome, the two differ in the phase, the log and the open function.
  cases result with
  | ok _ => exact ⟨⟨rfl, rfl, rfl, rfl, rfl⟩, rfl, rfl⟩
  | error f => cases f <;> exact ⟨⟨rfl, rfl, rfl, rfl, rfl⟩, rfl, rfl⟩

/-- A function has opened another one and asked for code. -/
def askedWithin : Immediate :=
  typing ["def f", "    def g", "    set code", "call f"] {}

/-- The first line of the script goes to the body that is open, and the last one is not reached. -/
theorem askedWithin_script_acts_as_typed :
    askedWithin.phase = .waiting ∧ askedWithin.opened = some "g" ∧
    (askedWithin.line "    set a 1\ncall g\nprint a\nprint b\nset c 1").result =
      .ok (.failure .unsetVariable) ∧
    ActsLike (askedWithin.line "    set a 1\ncall g\nprint a\nprint b\nset c 1")
      (typeUpToFailure ["    set a 1", "call g", "print a", "print b", "set c 1"]
        { askedWithin with phase := .ready }) := by
  obtain ⟨waiting, opened, lines⟩ : askedWithin.phase = .waiting ∧ askedWithin.opened = some "g" ∧
      Text.scriptLines "    set a 1\ncall g\nprint a\nprint b\nset c 1" =
        ["    set a 1", "call g", "print a", "print b", "set c 1"] := by decide +kernel
  have silent : ∀ s ∈ typedCourse
      (Text.scriptLines "    set a 1\ncall g\nprint a\nprint b\nset c 1")
      { askedWithin with phase := .ready }, asksForCode s.1 = false := by decide +kernel
  have acts := (script_acts_as_typed askedWithin _ waiting silent).1
  rw [lines] at acts
  exact ⟨waiting, opened, by decide +kernel, acts⟩

end Immediate

end LineLang
