import LineLang.Proofs.Debugger.Crashes
import LineLang.Proofs.Debugger.Moments
import LineLang.Proofs.Debugger.PartialLoads
import Mathlib.Data.List.DropRight

/-!
# The brackets around code

Code is put between `set code` and `end set code`. Both can be typed, and both can be statements of
a program that runs. What happens to the brackets in a session is listed as `Bracket`s in the order
of time (`bracketsOfSession`), and the list decides what a line is taken for, which program there
is, and whether a bracket can be closed (`brackets_decide`).

The phase goes by the latest bracket of any kind. The request, which strict brackets look at, goes
by the latest `set code` and `end set code` only: loading a script leaves it alone.
-/

namespace LineLang

namespace Debugger

variable {d d' e x : Debugger} {t : Tick} {strict : Bool} {text : String} {mode : RunMode}
  {passed : List Debugger}

/-- What can happen to the brackets around code. -/
inductive Bracket
  /-- Code is asked for. -/
  | request
  /-- A script is taken as code. It may have a fault, and is not loaded then. -/
  | load (script : List String) (loaded : Bool)
  /-- The bracket is closed. -/
  | close
  deriving DecidableEq, Repr

/-- The program that is there from then on. -/
def Bracket.program? : Bracket → Option (List String)
  | load script true => some script
  | _ => none

variable {events : List Bracket}

/-! ## Brackets of a session -/

/-- What a command does to the brackets. -/
def Command.bracket? : Command → Option Bracket
  | session .setCode => some .request
  | session .endSetCode => some .close
  | _ => none

/-- What executing a line does to the brackets. A statement that fails does nothing. -/
def bracketOf? (text : String) (d : Debugger) : Option Bracket :=
  match (d.execute text).result with
  | .ok _ => (commandOf? text).bind Command.bracket?
  | .error _ => none

/-- What the next micro-step does to the brackets. -/
def pendingBracket? (d : Debugger) : Option Bracket :=
  d.pending?.bind d.bracketOf?

/-- What a line does to the brackets. -/
def bracketsOfLine (fuel : Nat) (text : String) (d : Debugger) : List Bracket :=
  if d.phase = .waiting then
    [.load (Text.scriptLines text) (d.load text).result.isOk]
  else
    match commandOf? text with
    | some (.resume mode) => (statesOfStart fuel mode d).filterMap pendingBracket?
    | _ => (d.bracketOf? text).toList

/-- What happens to the brackets in a session, in the order of time. -/
def bracketsOfSession (fuel : Nat) : List String → Debugger → List Bracket
  | [], _ => []
  | text :: rest, d =>
    d.bracketsOfLine fuel text ++ bracketsOfSession fuel rest (d.line fuel text).state

/-- The lines of the program of the next start. -/
def programLines? (d : Debugger) : Option (List String) :=
  d.program?.map fun id => (d.routines.routine id).lines

/-- Code was asked for and the bracket was not closed since. -/
def IsOpen (events : List Bracket) : Prop :=
  .request ∈ events.rtakeWhile (· ≠ .close)

instance (events : List Bracket) : Decidable (IsOpen events) :=
  inferInstanceAs (Decidable (_ ∈ _))

theorem isOpen_request (events : List Bracket) : IsOpen (events ++ [.request]) := by
  rw [IsOpen, List.rtakeWhile_concat_pos _ _ _ (by decide)]
  simp

theorem not_isOpen_close (events : List Bracket) : ¬ IsOpen (events ++ [.close]) := by
  rw [IsOpen, List.rtakeWhile_concat_neg _ _ _ (by decide)]
  simp

theorem isOpen_load (events : List Bracket) (script : List String) (loaded : Bool) :
    IsOpen (events ++ [.load script loaded]) ↔ IsOpen events := by
  rw [IsOpen, List.rtakeWhile_concat_pos _ _ _ (by simp), List.mem_append]
  simp [IsOpen]

/-! ## What one bracket does -/

/-- The session is in the state that the brackets so far have led to. -/
structure Bracketed (strict : Bool) (events : List Bracket) (d : Debugger) : Prop where
  strict : d.strict = strict
  waiting : d.phase = .waiting ↔ events.getLast? = some .request
  requested : d.requested = true ↔ IsOpen events
  program : d.programLines? = (events.filterMap Bracket.program?).getLast?
  unloaded : d.phase = .noCode → d.programLines? = none

theorem programLines?_congr (loads : e.loads = d.loads)
    (lines : ∀ id, (e.routines.routine id).lines = (d.routines.routine id).lines) :
    e.programLines? = d.programLines? := by
  simp only [programLines?, program?, loads, lines]

theorem programLines?_execute (d : Debugger) (text : String) :
    (d.execute text).state.programLines? = d.programLines? :=
  programLines?_congr (execute_effect d text).loads_eq (lines_execute d text)

/-- Of the phase, the request and the strictness a statement changes what its bracket changes. -/
theorem execute_bracket (d : Debugger) (text : String) :
    (d.execute text).state.strict = d.strict ∧
    match d.bracketOf? text with
    | some .request =>
      (d.execute text).state.phase = .waiting ∧ (d.execute text).state.requested = true
    | some .close =>
      (d.execute text).state.phase = .ready ∧ (d.execute text).state.requested = false
    | some (.load _ _) => False
    | none =>
      (d.execute text).state.phase = d.phase ∧
        (d.execute text).state.requested = d.requested := by
  have effect := execute_effect d text
  unfold bracketOf?
  generalize d.execute text = reply at effect
  cases effect with
  | refuse | tooLong | resume => exact ⟨rfl, rfl, rfl⟩
  | onVariables c args vars lines parsed =>
    rw [commandOf?_of_parse (c := .session (.onVariables c)) parsed]
    exact ⟨rfl, rfl, rfl⟩
  | setCode command =>
    rw [command]
    obtain ⟨log, asked⟩ := d.toSession.requestCode_eq
    rw [onSession, asked]
    exact ⟨rfl, rfl, rfl⟩
  | endSetCode s closed command =>
    rw [command]
    obtain ⟨log, rfl⟩ := Session.eq_of_endCode closed
    exact ⟨rfl, rfl, rfl⟩
  | skipBody args parsed =>
    rw [commandOf?_of_parse (c := .skipBody) parsed]
    unfold Debugger.skipBody
    split
    · exact ⟨rfl, rfl, rfl⟩
    · unfold Routine.skipBody
      split <;> exact ⟨rfl, rfl, rfl⟩
  | call name args parsed =>
    rw [commandOf?_of_parse (c := .call) parsed]
    exact ⟨rfl, rfl, rfl⟩
  | addBreak args position read command | printTrace command =>
    rw [command]
    exact ⟨rfl, rfl, rfl⟩

namespace Bracketed

theorem congr (h : Bracketed strict events d) (same : e.strict = d.strict)
    (phase : e.phase = d.phase) (requested : e.requested = d.requested)
    (program : e.programLines? = d.programLines?) : Bracketed strict events e where
  strict := same.trans h.strict
  waiting := phase ▸ h.waiting
  requested := requested ▸ h.requested
  program := program.trans h.program
  unloaded := by
    rw [phase, program]
    exact h.unloaded

theorem of_alike (h : Bracketed strict events d) (alike : Alike e d) : Bracketed strict events e :=
  h.congr alike.strict alike.phase alike.requested
    (programLines?_congr alike.loads fun id => by rw [alike.routines])

/-- A statement, which may be a bracket. -/
theorem execute (h : Bracketed strict events d) (text : String) :
    Bracketed strict (events ++ (d.bracketOf? text).toList) (d.execute text).state := by
  obtain ⟨same, bracket⟩ := execute_bracket d text
  have program := programLines?_execute d text
  cases which : d.bracketOf? text with
  | none =>
    rw [which] at bracket
    rw [Option.toList_none, List.append_nil]
    exact h.congr same bracket.1 bracket.2 program
  | some b =>
    rw [which] at bracket
    rw [Option.toList_some]
    cases b with
    | request =>
      refine ⟨same.trans h.strict, ?_, ?_, ?_, ?_⟩
      · simp [bracket.1]
      · simp [bracket.2, isOpen_request]
      · simp [program, h.program, Bracket.program?]
      · simp [bracket.1]
    | close =>
      refine ⟨same.trans h.strict, ?_, ?_, ?_, ?_⟩
      · simp [bracket.1]
      · simp [bracket.2, not_isOpen_close]
      · simp [program, h.program, Bracket.program?]
      · simp [bracket.1]
    | load script loaded => exact bracket.elim

/-- A micro-step, whose statement may be a bracket. -/
theorem tick (h : Bracketed strict events d) (tick : d.tick = (d', t)) :
    Bracketed strict (events ++ d.pendingBracket?.toList) d' := by
  have program : d'.programLines? = d.programLines? :=
    programLines?_congr (loads_tick tick) (lines_tick tick)
  have moves := tick ▸ tick_moves d
  unfold pendingBracket?
  cases moves with
  | idle empty =>
    rw [pending?_of_stack_nil empty]
    simpa using h
  | leave id rest stack ended =>
    rw [pending?_of_isEnded ((isEnded_of_stack stack).trans ended)]
    have kept : Bracketed strict events (d.leave id) := by
      refine h.congr ?_ ?_ ?_ program <;> (unfold leave; dsimp only; split <;> rfl)
    simpa using kept
  | execute id rest line stack inside pending =>
    rw [pending?_of_stack stack inside, pending]
    exact (h.execute line).congr rfl rfl rfl (program.trans (programLines?_execute d line).symm)
  | astray id rest stack inside pending =>
    rw [pending?_of_stack stack inside, pending]
    simpa using h
  | fail id rest line f stack inside pending =>
    rw [pending?_of_stack stack inside, pending]
    exact h.execute line

theorem enter (h : Bracketed strict events d) (entered : d.entered? = some e) :
    Bracketed strict events e := by
  obtain ⟨id, -, -, rfl⟩ | ⟨-, rfl⟩ := entered_cases entered
  · exact h.congr rfl rfl rfl rfl
  · exact h

end Bracketed

/-- Runs keep it so. -/
theorem bracketed_invariant (strict : Bool) (events : List Bracket) :
    RunInvariant fun history d =>
      Bracketed strict (events ++ history.filterMap pendingBracket?) d where
  congr h alike _ := h.of_alike alike
  tick {history x y t} h tick := by
    have step := h.tick tick
    rw [List.append_assoc] at step
    rw [List.filterMap_append, List.filterMap_cons, List.filterMap_nil]
    cases which : x.pendingBracket? <;> simpa [which] using step
  enter h entered := h.enter entered

namespace Bracketed

theorem before_history (h : Bracketed strict events d) :
    Bracketed strict (events ++ ([] : List Debugger).filterMap pendingBracket?) d := by
  rwa [List.filterMap_nil, List.append_nil]

theorem start (h : Bracketed strict events d) (fuel : Nat) (mode : RunMode) :
    Bracketed strict (events ++ (statesOfStart fuel mode d).filterMap pendingBracket?)
      (d.start fuel mode).state :=
  (bracketed_invariant strict events).start h.before_history fuel mode

theorem comesTo (h : Bracketed strict events d) (comes : ComesTo mode d passed x) :
    Bracketed strict (events ++ passed.filterMap pendingBracket?) x :=
  (bracketed_invariant strict events).comesTo h.before_history comes

end Bracketed

/-! ## Loading -/

/-- A program that is added has the next number. -/
theorem Adds.number_eq {script : List String} {n : Nat} {r : Routine}
    (h : Adds d script (.program n) r) : n = d.loads := by
  cases h
  rfl

/-- A script without a fault is the program from then on. -/
theorem programLines?_load_of_ok {payload : String} (loaded : (d.load payload).result = .ok ()) :
    (d.load payload).state.programLines? = some (Text.scriptLines payload) := by
  obtain ⟨o, -, events, whole⟩ | ⟨read, line, rest, o, f, -, -, -, whole⟩ := load_cases d payload
  · rw [whole]
    have program := routine_of_find?
      (find?_withProgram (d.withFunctions o.functions) (Text.scriptLines payload) events)
    exact congrArg (fun r => some r.lines) program
  · rw [whole] at loaded
    cases loaded

/-- A script with a fault leaves the program as it is. -/
theorem programLines?_load_of_error {payload : String} {f : Failure}
    (faulty : (d.load payload).result = .error f) :
    (d.load payload).state.programLines? = d.programLines? := by
  have loads : (d.load payload).state.program? = d.program? := by
    obtain ⟨o, -, events, whole⟩ | ⟨read, line, rest, o, f, -, -, -, whole⟩ := load_cases d payload
    · rw [whole] at faulty
      cases faulty
    · rw [whole]
      rfl
  rw [programLines?, programLines?, loads]
  unfold program?
  split
  · rfl
  · next loaded =>
    rw [Option.map_some, Option.map_some]
    obtain same | added := (load_extends d payload).routine_cases (.program (d.loads - 1))
    · rw [same]
    · have next := added.number_eq
      omega

/-- Taking a line as code. -/
theorem Bracketed.load (h : Bracketed strict events d) (payload : String) :
    Bracketed strict
      (events ++ [.load (Text.scriptLines payload) (d.load payload).result.isOk])
      (d.load payload).state := by
  have kept := load_retains d payload
  have phase := phase_load d payload
  refine ⟨kept.strict.trans h.strict, ?_, ?_, ?_, ?_⟩
  · rw [phase]
    split <;> simp
  · rw [kept.requested, h.requested, isOpen_load]
  · cases result : (d.load payload).result with
    | ok _ =>
      rw [programLines?_load_of_ok result]
      simp [Except.isOk, Except.toBool, Bracket.program?]
    | error f =>
      rw [programLines?_load_of_error result, h.program]
      simp [Except.isOk, Except.toBool, Bracket.program?]
  · rw [phase]
    split
    · next unloaded => simp [programLines?, unloaded]
    · simp

/-! ## Sessions -/

/-- A line, whatever it is taken for. -/
theorem Bracketed.line (h : Bracketed strict events d) (fuel : Nat) (text : String) :
    Bracketed strict (events ++ d.bracketsOfLine fuel text) (d.line fuel text).state := by
  unfold bracketsOfLine
  by_cases waiting : d.phase = .waiting
  · rw [if_pos waiting, Debugger.line, if_pos waiting]
    exact (h.load text).of_alike (settled_alike text _)
  · rw [if_neg waiting, Debugger.line, if_neg waiting]
    split
    · next mode command =>
      rw [statement_of_resume command]
      exact (h.start fuel mode).of_alike (settled_alike text (d.start fuel mode).void)
    · next other =>
      rw [statement_of_other other]
      exact (h.execute text).of_alike (settled_alike text _)

theorem Bracketed.session (h : Bracketed strict events d) (fuel : Nat) (lines : List String) :
    Bracketed strict (events ++ bracketsOfSession fuel lines d) (afterSession fuel lines d) := by
  induction lines generalizing events d with
  | nil => rwa [bracketsOfSession, List.append_nil]
  | cons text rest ih =>
    rw [bracketsOfSession, ← List.append_assoc]
    exact ih (h.line fuel text)

theorem bracketed_fresh (strict : Bool) : Bracketed strict [] { strict } := by
  refine ⟨rfl, ?_, ?_, rfl, fun _ => rfl⟩
  · simp
  · simp [IsOpen, List.rtakeWhile]

/-! ## Closing a bracket -/

/-- With strict brackets `end set code` is refused, and changes nothing, while no bracket is open.
In every other case it is carried out. -/
def ObeysBrackets (strict : Bool) (events : List Bracket) (d : Debugger) : Prop :=
  ∀ text, commandOf? text = some (.session .endSetCode) →
    if strict = true ∧ ¬ IsOpen events then d.execute text = .fault d .unrequestedCode
    else (d.execute text).result = .ok ()

theorem execute_of_endSetCode (command : commandOf? text = some (.session .endSetCode)) :
    d.execute text =
      match d.endCode with
      | .error f => .fault d f
      | .ok s => .ok { d with toSession := s } () := by
  obtain ⟨args, parsed⟩ := parse_of_commandOf? command
  rw [execute_of_parse d parsed, perform, SessionCommand.perform_endSetCode]
  cases d.endCode <;> rfl

theorem Bracketed.obeysBrackets (h : Bracketed strict events d) :
    ObeysBrackets strict events d := by
  intro text command
  rw [execute_of_endSetCode command, Session.endCode, h.strict]
  by_cases isOpen : IsOpen events
  · simp [h.requested.2 isOpen, isOpen, Reply.ok]
  · have unrequested : d.requested = false := by
      rw [← Bool.not_eq_true, h.requested]
      exact isOpen
    cases strict <;> simp [unrequested, isOpen, Reply.ok]

/-- In a session that begins without code the brackets so far decide everything about code. A line
is taken as code if and only if the latest thing that happened is that code was asked for. Code that
was loaded is never lost: the program is the latest script that was loaded, and the session is
without code only as long as none was. `end set code`, typed after the session or come to by a run,
is refused if and only if brackets are strict and none is open. -/
theorem brackets_decide (strict : Bool) (fuel : Nat) (lines : List String) :
    ((afterSession fuel lines { strict }).phase = .waiting ↔
      (bracketsOfSession fuel lines { strict }).getLast? = some .request) ∧
    ((afterSession fuel lines { strict }).phase = .noCode →
      ∀ script, .load script true ∉ bracketsOfSession fuel lines { strict }) ∧
    (afterSession fuel lines { strict }).programLines? =
      ((bracketsOfSession fuel lines { strict }).filterMap Bracket.program?).getLast? ∧
    ObeysBrackets strict (bracketsOfSession fuel lines { strict })
      (afterSession fuel lines { strict }) ∧
    ∀ mode passed x, ComesTo mode (afterSession fuel lines { strict }) passed x →
      ObeysBrackets strict
        (bracketsOfSession fuel lines { strict } ++ passed.filterMap pendingBracket?) x := by
  have after := (bracketed_fresh strict).session fuel lines
  rw [List.nil_append] at after
  refine ⟨after.waiting, fun unloaded script member => ?_, after.program, after.obeysBrackets, ?_⟩
  · have none := after.program.symm.trans (after.unloaded unloaded)
    rw [List.getLast?_eq_none_iff, List.filterMap_eq_nil_iff] at none
    exact absurd (none _ member) (by simp [Bracket.program?])
  · intro mode passed x comes
    exact (after.comesTo comes).obeysBrackets

/-- A program closes its own bracket, opens another one and closes it twice, which fails. -/
example :
    bracketsOfSession 40
      ["end set code", "set code", "end set code\nset code\nend set code\nend set code", "run"]
      { strict := true } =
      [.request, .load ["end set code", "set code", "end set code", "end set code"] true,
        .close, .request, .close] := by
  decide +kernel

end Debugger

end LineLang
