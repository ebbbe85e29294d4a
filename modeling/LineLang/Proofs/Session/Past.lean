import LineLang.Interpreter
import LineLang.Proofs.Debugger.Lines
import LineLang.Proofs.Debugger.Loading
import LineLang.Proofs.Immediate.Unread

/-!
# What was written and noted before has no influence

An interpreter adds to its output and to its log, and never reads them. So it takes a line in the
same way whatever it has written and noted before: `after` puts a past in front of what an
interpreter has recorded, and every operation commutes with it, down to the failures
(`Debugger.line_after`, `Immediate.line_after`). What a line writes can therefore be read off the
same interpreter with an empty past.
-/

namespace LineLang

/-! ## Records -/

namespace Record

variable {α : Type}

/-- The record with the entries of an earlier one before its own. -/
def after (r earlier : Record α) : Record α :=
  ⟨r.newestFirst ++ earlier.newestFirst⟩

theorem addAll_after (r earlier : Record α) (as : List α) :
    (r.after earlier).addAll as = (r.addAll as).after earlier := by
  induction as generalizing r with
  | nil => rfl
  | cons a as ih => exact ih (r.add a)

theorem toList_after (r earlier : Record α) :
    (r.after earlier).toList = earlier.toList ++ r.toList :=
  List.reverse_append

theorem empty_after (earlier : Record α) : ({} : Record α).after earlier = earlier := rfl

theorem after_empty (r : Record α) : r.after {} = r := by
  simp [after]

end Record

/-! ## Sessions -/

/-- What a session has written and noted. -/
structure Past where
  output : Record String := {}
  log : Record Event := {}

namespace Session

variable (s : Session) (p : Past)

/-- The session with a past before its own. -/
def after (s : Session) (p : Past) : Session :=
  { s with output := s.output.after p.output, log := s.log.after p.log }

theorem after_empty : s.after {} = s := by
  simp only [after, Record.after_empty]

theorem noteAll_after (es : List Event) : (s.after p).noteAll es = (s.noteAll es).after p := by
  simp only [noteAll, after, Record.addAll_after]

theorem write_after (lines : List String) : (s.after p).write lines = (s.write lines).after p := by
  simp only [write, after, Record.addAll_after]

theorem enter_after (phase : Phase) : (s.after p).enter phase = (s.enter phase).after p := by
  have same : (s.after p).phase = s.phase := rfl
  unfold enter
  rw [same]
  split <;> rfl

theorem requestCode_after : (s.after p).requestCode = s.requestCode.after p :=
  enter_after { s with requested := true } p .waiting

theorem endCode_after : (s.after p).endCode = s.endCode.map (·.after p) := by
  have closed := enter_after { s with requested := false } p .ready
  have same : (s.after p).strict = s.strict ∧ (s.after p).requested = s.requested := ⟨rfl, rfl⟩
  unfold endCode
  rw [same.1, same.2]
  split
  · rfl
  · exact congrArg Except.ok closed

theorem report_after (line : String) (f : Fault) :
    (s.after p).report line f = (s.report line f).after p :=
  write_after (s.note (.lineFailed f.kind line)) p [f.message]

end Session

theorem SessionCommand.perform_after (c : SessionCommand) (args : List String)
    (outside : Option Int) (s : Session) (p : Past) :
    c.perform args outside (s.after p) = (c.perform args outside s).map (·.after p) := by
  cases c with
  | onVariables c =>
    rw [perform_onVariables, perform_onVariables]
    change Except.map _ (c.perform args (s.positionOr outside) s.vars) = _
    cases c.perform args (s.positionOr outside) s.vars with
    | error f => rfl
    | ok effect =>
      exact congrArg Except.ok (Session.write_after { s with vars := effect.1 } p effect.2)
  | setCode => exact congrArg Except.ok (s.requestCode_after p)
  | endSetCode =>
    rw [perform_endSetCode, perform_endSetCode, s.endCode_after p]
    cases s.endCode <;> rfl

namespace Reply

variable {σ : Type}

theorem ofExcept_map (f : σ → σ) (s : σ) (r : Except Failure σ) :
    ofExcept (f s) (r.map f) = (ofExcept s r).mapState f := by
  cases r <;> rfl

/-- A report that a change of the state does not touch settles a line before or after it. -/
theorem settle_mapState (f : σ → σ) (report : Fault → σ → σ)
    (same : ∀ fault s, report fault (f s) = f (report fault s)) (r : Reply σ Unit) :
    (r.mapState f).settle report = (r.settle report).mapState f := by
  refine related_image_iff.1 ((related_image_iff.2 rfl).settle ?_)
  rintro s _ fault rfl
  exact same fault s

end Reply

/-! ## Debuggers -/

namespace Debugger

variable (d : Debugger) (p : Past)

/-- The debugger with a past before its own. -/
def after (d : Debugger) (p : Past) : Debugger :=
  d.onSession (·.after p)

theorem skipBody_after : (d.after p).skipBody = d.skipBody.mapState (·.after p) := by
  have same : (d.after p).routines = d.routines := rfl
  unfold skipBody
  rw [same]
  cases d.routines.top? <;> rfl

theorem call_after (args : List String) :
    (d.after p).call args = (d.call args).map (·.after p) := by
  have same (name : String) : (d.after p).function name = d.function name := rfl
  rw [call_eq, call_eq]
  cases readName args[0]? with
  | error f => rfl
  | ok name =>
    dsimp only
    rw [same]
    cases d.function name <;> rfl

theorem addBreak_after (args : List String) :
    (d.after p).addBreak args = (d.addBreak args).map (·.after p) := by
  rw [addBreak_eq, addBreak_eq]
  cases convertValue args[0]? <;> rfl

theorem perform_after (args : List String) (c : Command) :
    (d.after p).perform args c = (d.perform args c).mapState (·.after p) := by
  cases c with
  | session c =>
    have performed : c.perform args none (d.after p).toSession = _ :=
      c.perform_after args none d.toSession p
    simp only [perform, performed]
    cases c.perform args none d.toSession <;> rfl
  | skipBody => exact d.skipBody_after p
  | call =>
    rw [perform, call_after]
    exact Reply.ofExcept_map (·.after p) d (d.call args)
  | resume mode => rfl
  | addBreak =>
    rw [perform, addBreak_after]
    exact Reply.ofExcept_map (·.after p) d (d.addBreak args)
  | printTrace =>
    exact congrArg (fun s => Reply.ok { d with toSession := s } ())
      (Session.write_after d.toSession p _)

theorem execute_after (line : String) :
    (d.after p).execute line = (d.execute line).mapState (·.after p) := by
  have related := repertoire.dispatch_related (R := fun d e : Debugger => e = d.after p) rfl
    (fun args c => Reply.related_image_iff.2 (d.perform_after p args c)) line
  exact Reply.related_image_iff.1 related

theorem leave_after (id : RoutineId) : (d.after p).leave id = (d.leave id).after p := by
  unfold leave
  dsimp only
  split <;> split <;> first | rfl | contradiction

theorem tick_after : (d.after p).tick = (d.tick.1.after p, d.tick.2) := by
  have same : (d.after p).routines = d.routines := rfl
  unfold tick
  rw [same]
  cases d.routines.top? with
  | none => rfl
  | some id =>
    dsimp only
    split
    · exact congrArg (·, Tick.returned) (d.leave_after p id)
    · cases (d.routines.routine id).statement? with
      | none => rfl
      | some line =>
        dsimp only
        rw [d.execute_after p line]
        rcases d.execute line with ⟨next, result⟩
        cases result <;> rfl

theorem runFrom_after (mode : RunMode) (depth fuel : Nat) :
    runFrom mode depth fuel (d.after p) = (runFrom mode depth fuel d).mapState (·.after p) := by
  induction fuel generalizing d with
  | zero => rfl
  | succ fuel ih =>
    have tick := d.tick_after p
    rcases moved : d.tick with ⟨next, t⟩
    rw [moved] at tick
    have pause : (next.after p).stop? mode depth t = next.stop? mode depth t := by
      cases t <;> rfl
    cases stop : next.stop? mode depth t with
    | some reason =>
      rw [runFrom_of_stop fuel moved stop, runFrom_of_stop fuel tick (pause.trans stop)]
      rfl
    | none =>
      cases t with
      | idle => cases stop
      | failed f =>
        rw [runFrom_of_failed fuel moved, runFrom_of_failed fuel tick]
        rfl
      | returned | executed id =>
        rw [runFrom_of_moved fuel moved trivial stop,
          runFrom_of_moved fuel tick trivial (pause.trans stop)]
        exact ih next

theorem run_after (fuel : Nat) (mode : RunMode) :
    (d.after p).run fuel mode = (d.run fuel mode).mapState (·.after p) := by
  have begun : (d.after p).begun mode = (d.begun mode).after p := rfl
  have depth : (d.after p).routines.depth = d.routines.depth := rfl
  rw [run_eq, run_eq, begun, depth, runFrom_after]
  rcases runFrom mode d.routines.depth fuel (d.begun mode) with ⟨last, outcome⟩
  cases outcome <;> rfl

theorem start_after (fuel : Nat) (mode : RunMode) :
    (d.after p).start fuel mode = (d.start fuel mode).mapState (·.after p) := by
  have entered : (d.after p).entered? = d.entered?.map (·.after p) := by
    have same : (d.after p).routines = d.routines ∧ (d.after p).program? = d.program? := ⟨rfl, rfl⟩
    unfold entered?
    rw [same.1, same.2]
    split
    · cases d.program? <;> rfl
    · rfl
  rw [start_eq, start_eq, entered]
  cases d.entered? with
  | none => rfl
  | some e => exact e.run_after p fuel mode

theorem statement_after (fuel : Nat) (text : String) :
    (d.after p).statement fuel text = (d.statement fuel text).mapState (·.after p) := by
  by_cases resume : ∃ mode, commandOf? text = some (.resume mode)
  · obtain ⟨mode, command⟩ := resume
    rw [statement_of_resume command, statement_of_resume command, start_after]
    rfl
  · have other : ∀ mode, commandOf? text ≠ some (.resume mode) := fun mode command =>
      resume ⟨mode, command⟩
    rw [statement_of_other other, statement_of_other other]
    exact d.execute_after p text

theorem closeCode_after : (d.after p).closeCode = d.closeCode.after p :=
  congrArg (fun s => { d with toSession := s })
    (d.toSession.enter_after p (if d.loads = 0 then .noCode else .ready))

theorem load_after (payload : String) :
    (d.after p).load payload = (d.load payload).mapState (·.after p) := by
  let lines := Text.scriptLines payload
  rcases scanned : Outline.scan vocabulary d.isDefined 0 lines with ⟨found, _ | f⟩
  · rw [load_of_scan scanned, load_of_scan (d := d.after p) scanned]
    let defined := d.withFunctions found.functions
    let events := loadEvents lines found.functions
    have noted := Session.noteAll_after (defined.install lines).toSession p events
    have closed := closeCode_after (defined.withProgram lines events) p
    refine congrArg (Reply.ok · ()) (Eq.trans ?_ closed)
    exact congrArg (fun s => closeCode { defined.install lines with toSession := s }) noted
  · rw [load_of_fault scanned, load_of_fault (d := d.after p) scanned]
    exact congrArg (Reply.fault · f) (closeCode_after (d.withFunctions found.functions) p)

theorem line_after (fuel : Nat) (text : String) :
    (d.after p).line fuel text = (d.line fuel text).mapState (·.after p) := by
  have phase : (d.after p).phase = d.phase := rfl
  have taken : (if d.phase = .waiting then (d.after p).load text
      else (d.after p).statement fuel text) =
      (if d.phase = .waiting then d.load text else d.statement fuel text).mapState (·.after p) := by
    split
    · exact d.load_after p text
    · exact d.statement_after p fuel text
  rw [line, line, phase, taken]
  refine Reply.settle_mapState _ _ (fun f d => ?_) _
  exact congrArg (fun s => { d with toSession := s }) (d.toSession.report_after p text f)

end Debugger

/-! ## Immediate interpreters -/

/-- The past of a session is not read. -/
theorem Session.unread_after (p : Past) : Session.Unread fun s t => t = s.after p where
  workspace := by
    rintro s _ rfl
    rfl
  setWorkspace := by
    rintro s _ rfl w
    rfl
  note := by
    rintro s _ rfl event
    exact s.noteAll_after p [event]
  perform := by
    rintro s _ rfl c args outside
    rw [c.perform_after]
    cases c.perform args outside s with
    | error f => exact .inl ⟨f, rfl, rfl⟩
    | ok s' => exact .inr ⟨s', _, rfl, rfl, rfl⟩

namespace Immediate

/-- The immediate interpreter with a past before its own. -/
def after (i : Immediate) (p : Past) : Immediate :=
  i.onSession (·.after p)

theorem statement_after (line : String) (i : Immediate) (p : Past) :
    (i.after p).statement line = (i.statement line).mapState (·.after p) := by
  have parallel : Parallel (fun s t => t = s.after p) i (i.after p) := ⟨rfl, rfl, rfl⟩
  have same := statement_parallel (Session.unread_after p) line parallel
  refine Reply.related_image_iff.1 ⟨same.result, same.state.eq.trans ?_⟩
  rw [same.state.session]
  rfl

theorem statements_after (lines : List String) (i : Immediate) (p : Past) :
    statements lines (i.after p) = (statements lines i).mapState (·.after p) := by
  induction lines generalizing i with
  | nil => rfl
  | cons line rest ih =>
    have counted : (i.after p).count = i.count.after p := rfl
    rw [statements, statements, counted, statement_after]
    rcases i.count.statement line with ⟨next, result⟩
    cases result with
    | error f => rfl
    | ok _ => exact ih next

theorem load_after (payload : String) (i : Immediate) (p : Past) :
    (i.after p).load payload = (i.load payload).mapState (·.after p) := by
  rw [load, load, statements_after]
  rcases statements (Text.scriptLines payload) i with ⟨next, result⟩
  have entered := next.toSession.enter_after p .ready
  exact congrArg (fun s => Reply.mk { next with opened := none, toSession := s } result) entered

theorem line_after (text : String) (i : Immediate) (p : Past) :
    (i.after p).line text = (i.line text).mapState (·.after p) := by
  have phase : (i.after p).phase = i.phase := rfl
  have taken : (if i.phase = .waiting then (i.after p).load text
      else (i.after p).count.statement text) =
      (if i.phase = .waiting then i.load text else i.count.statement text).mapState
        (·.after p) := by
    split
    · exact i.load_after text p
    · exact statement_after text i.count p
  rw [line, line, phase, taken]
  refine Reply.settle_mapState _ _ (fun f i => ?_) _
  exact congrArg (fun s => { i with toSession := s }) (i.toSession.report_after p text f)

end Immediate

/-! ## All interpreters -/

namespace Interpreter

/-- The interpreter with a past before its own. -/
def after (i : Interpreter) (p : Past) : Interpreter :=
  i.onSession (·.after p)

theorem onSession_eq_self {i : Interpreter} {change : Session → Session}
    (same : change i.session = i.session) : i.onSession change = i := by
  cases i with
  | bare s => exact congrArg bare same
  | debugger d => exact congrArg (fun s => debugger { d with toSession := s }) same
  | immediate i => exact congrArg (fun s => immediate { i with toSession := s }) same

theorem onSession_onSession (i : Interpreter) (change change' : Session → Session) :
    (i.onSession change).onSession change' = i.onSession fun s => change' (change s) := by
  cases i <;> rfl

theorem after_empty (i : Interpreter) : i.after {} = i :=
  onSession_eq_self (Session.after_empty _)

/-- An interpreter whose lines were handed out has them in its past. -/
theorem takeOutput_after (i : Interpreter) :
    i.takeOutput.2.after { output := i.session.output } = i := by
  have past : Session.after { i.session with output := {} } { output := i.session.output } =
      i.session := by
    simp only [Session.after, Record.empty_after, Record.after_empty]
  exact (i.onSession_onSession _ _).trans (onSession_eq_self past)

/-- The lines of the past are handed out first. What it has noted stays. -/
theorem takeOutput_of_after (i : Interpreter) (p : Past) :
    (i.after p).takeOutput =
      (p.output.toList ++ i.takeOutput.1, i.takeOutput.2.after { log := p.log }) := by
  have lines (s : Session) : (s.after p).output.toList = p.output.toList ++ s.output.toList :=
    Record.toList_after s.output p.output
  cases i with
  | bare s => exact Prod.ext (lines s) rfl
  | debugger d => exact Prod.ext (lines d.toSession) rfl
  | immediate i => exact Prod.ext (lines i.toSession) rfl

theorem takeOutput_of_unwritten {i : Interpreter} (unwritten : i.session.output = {}) :
    i.takeOutput.2 = i := by
  have past := i.takeOutput_after
  rw [unwritten] at past
  exact (after_empty i.takeOutput.2).symm.trans past

/-- An interpreter takes a line in the same way whatever it has written and noted before. -/
theorem line_after (fuel : Nat) (text : String) (i : Interpreter) (p : Past) :
    (i.after p).line fuel text = (i.line fuel text).mapState (·.after p) := by
  cases i with
  | bare s =>
    have phase : (s.after p).phase = s.phase := rfl
    have taken : (if s.phase = .waiting then Bare.load text (s.after p)
        else Bare.statement text (s.after p)) =
        (if s.phase = .waiting then Bare.load text s else Bare.statement text s).mapState
          (·.after p) := by
      split
      · rfl
      · exact Reply.related_image_iff.1 (Bare.repertoire.dispatch_related
          (R := fun s t : Session => t = s.after p) (s := s) rfl (fun _ c => c.elim) text)
    have line : Bare.line text (s.after p) = (Bare.line text s).mapState (·.after p) := by
      rw [Bare.line, Bare.line, phase, taken]
      exact Reply.settle_mapState _ _ (fun f s => s.report_after p text f) _
    exact congrArg (Reply.mapState bare) line
  | debugger d => exact congrArg (Reply.mapState debugger) (d.line_after p fuel text)
  | immediate i => exact congrArg (Reply.mapState immediate) (i.line_after text p)

end Interpreter

end LineLang
