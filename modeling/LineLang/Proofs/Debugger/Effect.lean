import LineLang.Debugger.Run
import LineLang.Proofs.Session.Commands
import LineLang.Proofs.Statement.Repertoire

/-!
# What a statement can do

`Effect d line reply` lists everything that executing `line` can do to the debugger `d`, one
constructor for each kind of statement and one for the statements that are refused.
`execute_effect` says that the list is complete. `Moves` does the same for micro-steps. What a
statement or a micro-step keeps, and what it never does, is read off the constructors.
-/

namespace LineLang

namespace Debugger

/-! ## Commands and their names -/

instance : Nonempty Command := ⟨.call⟩

/-- The command of a line, if the line is a statement. -/
def commandOf? (line : String) : Option Command :=
  match vocabulary.parse line with
  | .ok statement => repertoire.ofName? statement.command
  | .error _ => none

theorem commandOf?_of_parse {line : String} {c : Command} {args : List String}
    (parsed : vocabulary.parse line = .ok ⟨c.name, args⟩) : commandOf? line = some c := by
  unfold commandOf?
  rw [parsed]
  exact repertoire.ofName?_name c

theorem parse_of_commandOf? {line : String} {c : Command} (h : commandOf? line = some c) :
    ∃ args, vocabulary.parse line = .ok ⟨c.name, args⟩ := by
  unfold commandOf? at h
  cases parsed : vocabulary.parse line with
  | error f => simp [parsed] at h
  | ok statement =>
    rw [parsed] at h
    have named : c.name = statement.command := Repertoire.name_of_ofName? h
    exact ⟨statement.args, by rw [named]⟩

/-- The function that a line calls: the first argument of a call. -/
def callee? (line : String) : Option String :=
  match vocabulary.parse line with
  | .ok statement => if statement.command = Command.call.name then statement.args[0]? else none
  | .error _ => none

theorem callee?_of_parse {line : String} {args : List String}
    (parsed : vocabulary.parse line = .ok ⟨Command.call.name, args⟩) : callee? line = args[0]? := by
  unfold callee?
  rw [parsed]
  exact if_pos rfl

theorem parse_of_callee? {line name : String} (h : callee? line = some name) :
    ∃ args, vocabulary.parse line = .ok ⟨Command.call.name, name :: args⟩ := by
  unfold callee? at h
  split at h
  · next statement parsed =>
    obtain ⟨command, args⟩ := statement
    split at h
    · next call =>
      dsimp only at call h
      subst call
      cases args with
      | nil => cases h
      | cons first rest =>
        cases h
        exact ⟨rest, parsed⟩
    · cases h
  · cases h

/-- Only calls call a function. -/
theorem callee?_eq_none {line : String} (other : commandOf? line ≠ some .call) :
    callee? line = none := by
  cases h : callee? line with
  | none => rfl
  | some name =>
    obtain ⟨args, parsed⟩ := parse_of_callee? h
    exact absurd (commandOf?_of_parse parsed) other

theorem call_eq (args : List String) (d : Debugger) :
    d.call args =
      match readName args[0]? with
      | .error f => .error (.fault f)
      | .ok name =>
        match d.function name with
        | .error f => .error (.fault f)
        | .ok _ => .ok (d.onRoutines (·.push (.function name))) := by
  unfold Debugger.call
  cases readName args[0]? with
  | error f => rfl
  | ok name =>
    dsimp only
    change ((d.function name).mapError Failure.fault >>= fun _ => pure _) = _
    cases d.function name <;> rfl

theorem addBreak_eq (args : List String) (d : Debugger) :
    d.addBreak args =
      (convertValue args[0]?).map fun position =>
        { d with breakpoints := placeAscending position d.breakpoints } := by
  unfold Debugger.addBreak
  cases convertValue args[0]? <;> rfl

/-! ## Effects -/

/-- Executing the line comes to convert the token. -/
inductive Converts (d : Debugger) (line : String) : String → Prop
  | onVariables {c : VariableCommand} {args : List String} {token : String}
      (parsed : vocabulary.parse line = .ok ⟨c.name, args⟩)
      (converts : c.Converts args d.vars token) : Converts d line token
  | addBreak {args : List String} {token : String}
      (parsed : vocabulary.parse line = .ok ⟨Command.addBreak.name, args⟩)
      (given : args[0]? = some token) : Converts d line token

/-- Executing the line comes to convert a number of `count` digits, more than are converted. -/
def Overlong (d : Debugger) (line : String) (count : Nat) : Prop :=
  ∃ token, d.Converts line token ∧ TooLong token count

/-- What executing `line` in the debugger `d` can lead to. -/
inductive Effect (d : Debugger) (line : String) : Reply Debugger Unit → Prop
  /-- The statement is refused and changes nothing. The line may be no statement at all. -/
  | refuse (f : Fault) (unknown : f = .unknownCommand → vocabulary.parse line = .error f) :
      Effect d line (.fault d f)
  /-- A number is too long to be converted, and nothing changes. -/
  | tooLong (count : Nat) (overlong : d.Overlong line count) :
      Effect d line (.crash d (.tooManyDigits count))
  | onVariables (c : VariableCommand) (args : List String) (vars : Variables)
      (lines : List String) (parsed : vocabulary.parse line = .ok ⟨c.name, args⟩)
      (done : c.perform args (d.positionOr none) d.vars = .ok (vars, lines)) :
      Effect d line (.ok ({ d with vars }.onSession (·.write lines)) ())
  | setCode (command : commandOf? line = some (.session .setCode)) :
      Effect d line (.ok (d.onSession Session.requestCode) ())
  | endSetCode (s : Session) (closed : d.endCode = .ok s)
      (command : commandOf? line = some (.session .endSetCode)) :
      Effect d line (.ok { d with toSession := s } ())
  /-- A header is passed over together with its body, if there is a frame to do it in. -/
  | skipBody (args : List String) (parsed : vocabulary.parse line = .ok ⟨Outline.header, args⟩) :
      Effect d line d.skipBody
  | call (name : String) (args : List String) (parsed : vocabulary.parse line = .ok ⟨"call", args⟩)
      (named : readName args[0]? = .ok name) (r : Routine) (found : d.function name = .ok r) :
      Effect d line (.ok (d.onRoutines (·.push (.function name))) ())
  | resume (mode : RunMode) (args : List String)
      (parsed : vocabulary.parse line = .ok ⟨(Command.resume mode).name, args⟩) :
      Effect d line (.crash { d with lastStop := none } .endlessRun)
  | addBreak (args : List String) (position : Int) (read : convertValue args[0]? = .ok position)
      (command : commandOf? line = some .addBreak) :
      Effect d line
        (.ok { d with breakpoints := placeAscending position d.breakpoints } ())
  | printTrace (command : commandOf? line = some .printTrace) : Effect d line (.ok d.printTrace ())

theorem Effect.of_refusal {d : Debugger} {line : String} {converted : String → Prop} {f : Failure}
    (refusal : f.IsRefusal converted)
    (converts : ∀ token, converted token → d.Converts line token) :
    Effect d line ⟨d, .error f⟩ := by
  cases refusal with
  | fault f known => exact .refuse f fun unknown => absurd unknown known
  | tooLong converted long => exact .tooLong _ ⟨_, converts _ converted, long⟩

theorem perform_effect (d : Debugger) {line : String} {c : Command} {args : List String}
    (parsed : vocabulary.parse line = .ok ⟨c.name, args⟩) :
    Effect d line (d.perform args c) := by
  cases c with
  | session c =>
    cases c with
    | onVariables c =>
      simp only [perform, SessionCommand.perform_onVariables]
      cases done : c.perform args (d.positionOr none) d.vars with
      | error f =>
        exact .of_refusal (c.refuses_perform _ _ _ f done) fun token => .onVariables parsed
      | ok effect => exact .onVariables c args effect.1 effect.2 parsed done
    | setCode => exact .setCode (commandOf?_of_parse parsed)
    | endSetCode =>
      simp only [perform, SessionCommand.perform_endSetCode]
      cases closed : d.endCode with
      | error f =>
        refine .refuse f ?_
        rintro rfl
        unfold Session.endCode at closed
        split at closed <;> cases closed
      | ok s => exact .endSetCode s closed (commandOf?_of_parse parsed)
  | skipBody => exact .skipBody args parsed
  | call =>
    simp only [perform, call_eq]
    cases named : readName args[0]? with
    | error f =>
      exact .refuse f fun unknown => absurd (unknown ▸ named) (readName_ne_unknownCommand _)
    | ok name =>
      dsimp only
      cases found : d.function name with
      | error f =>
        refine .refuse f ?_
        rintro rfl
        unfold Workspace.function at found
        split at found <;> cases found
      | ok r => exact .call name args parsed named r found
  | resume mode => exact .resume mode args parsed
  | addBreak =>
    simp only [perform, addBreak_eq]
    cases read : convertValue args[0]? with
    | error f =>
      exact .of_refusal (refuses_convertValue (fun token => id) f read)
        fun token => .addBreak parsed
    | ok position => exact .addBreak args position read (commandOf?_of_parse parsed)
  | printTrace => exact .printTrace (commandOf?_of_parse parsed)

theorem execute_of_parse (d : Debugger) {line : String} {c : Command} {args : List String}
    (parsed : vocabulary.parse line = .ok ⟨c.name, args⟩) : d.execute line = d.perform args c :=
  repertoire.dispatch_of_parse parsed perform d

/-- A statement does one of the things on the list. -/
theorem execute_effect (d : Debugger) (line : String) : Effect d line (d.execute line) := by
  obtain ⟨f, unread, refused⟩ | ⟨c, args, parsed, performed⟩ :=
    repertoire.dispatch_cases line Debugger
  · rw [execute, refused]
    exact .refuse f fun _ => unread
  · rw [execute, performed]
    exact perform_effect d parsed

/-- A call that is not refused puts a function on the stack. -/
theorem execute_of_call {d : Debugger} {line : String} (call : commandOf? line = some .call)
    (done : (d.execute line).result = .ok ()) :
    ∃ name r, callee? line = some name ∧ d.function name = .ok r ∧
      d.execute line = .ok (d.onRoutines (·.push (.function name))) () := by
  obtain ⟨args, parsed⟩ := parse_of_commandOf? call
  rw [execute_of_parse d parsed, perform, call_eq] at done ⊢
  cases named : readName args[0]? with
  | error f => simp [named, Reply.ofExcept] at done
  | ok name =>
    simp only [named] at done ⊢
    cases found : d.function name with
    | error f => simp [found, Reply.ofExcept] at done
    | ok r =>
      exact ⟨name, r, (callee?_of_parse parsed).trans (eq_some_of_readName named), found, rfl⟩

/-- A number that is too long is not converted, and nothing changes. -/
theorem execute_of_overlong {d : Debugger} {line : String} {count : Nat}
    (overlong : d.Overlong line count) : d.execute line = .crash d (.tooManyDigits count) := by
  obtain ⟨token, converts, long⟩ := overlong
  cases converts with
  | @onVariables c args _ parsed converts =>
    rw [execute_of_parse (c := .session (.onVariables c)) d parsed, perform,
      SessionCommand.perform_onVariables, VariableCommand.perform_of_tooLong converts long]
    rfl
  | addBreak parsed given =>
    rw [execute_of_parse d parsed, perform, addBreak_eq, given, convertValue_of_tooLong long]
    rfl

theorem routine_of_find? {d : Debugger} {id : RoutineId} {r : Routine}
    (found : d.routines.known.find? id = some r) : d.routines.routine id = r := by
  rw [Routines.routine, found, Option.getD_some]

theorem find?_of_function {d : Debugger} {name : String} {r : Routine}
    (found : d.function name = .ok r) :
    d.routines.known.find? (.function name) = some r := by
  unfold Workspace.function at found
  split at found
  · cases found
    assumption
  · cases found

theorem stack_skipBody (d : Debugger) : d.skipBody.state.routines.stack = d.routines.stack := by
  unfold skipBody
  split <;> rfl

theorem placeAscending_ne_nil (value : Int) (values : List Int) :
    placeAscending value values ≠ [] := by
  cases values with
  | nil => simp [placeAscending]
  | cons other rest =>
    unfold placeAscending
    split
    · simp
    · split <;> simp

namespace Effect

variable {d : Debugger} {text : String} {reply : Reply Debugger Unit}

theorem result_ne_unfinished (h : Effect d text reply) : reply.result ≠ .error .unfinished := by
  cases h with
  | skipBody args parsed =>
    unfold Debugger.skipBody
    split
    · simp [Reply.ok]
    · unfold Routine.skipBody
      split <;> simp [Reply.mapState, Reply.crash, Reply.ok]
  | _ => simp [Reply.ok, Reply.fault, Reply.crash]

/-- A command that is not known is that of no statement. -/
theorem parse_of_unknownCommand (h : Effect d text reply)
    (unknown : reply.result = .error (.fault .unknownCommand)) :
    vocabulary.parse text = .error .unknownCommand := by
  cases h with
  | refuse f none =>
    cases unknown
    exact none rfl
  | skipBody args parsed =>
    unfold Debugger.skipBody Routine.skipBody at unknown
    split at unknown
    · cases unknown
    · split at unknown <;> cases unknown
  | _ => cases unknown

/-- A statement changes the routines in two ways only: a header moves the pointer of the top frame,
and a call puts a function on the stack. -/
theorem routines_cases (h : Effect d text reply) :
    reply.state.routines = d.routines ∨
    (commandOf? text = some .skipBody ∧ reply = d.skipBody) ∨
    commandOf? text = some .call ∧ ∃ name r, d.function name = .ok r ∧
      reply = .ok (d.onRoutines (·.push (.function name))) () := by
  cases h with
  | skipBody args parsed => exact .inr (.inl ⟨commandOf?_of_parse parsed, rfl⟩)
  | call name args parsed named r found =>
    exact .inr (.inr ⟨commandOf?_of_parse parsed, name, r, found, rfl⟩)
  | setCode => exact .inl (Session.enter_routines _ _)
  | endSetCode s closed =>
    exact .inl (congrArg Workspace.routines (Session.toWorkspace_of_endCode closed))
  | _ => exact .inl rfl

/-- A statement leaves the frames of the stack where they are. It may put one on top. -/
theorem stack_suffix (h : Effect d text reply) :
    d.routines.stack <:+ reply.state.routines.stack := by
  obtain same | ⟨-, rfl⟩ | ⟨-, name, r, -, rfl⟩ := h.routines_cases
  · exact ⟨[], by rw [same, List.nil_append]⟩
  · exact ⟨[], by rw [stack_skipBody, List.nil_append]⟩
  · exact List.suffix_cons _ _

/-- A statement that is no call leaves the stack as it is. -/
theorem stack_eq (h : Effect d text reply) (other : commandOf? text ≠ some .call) :
    reply.state.routines.stack = d.routines.stack := by
  obtain same | ⟨-, rfl⟩ | ⟨call, -⟩ := h.routines_cases
  · rw [same]
  · exact stack_skipBody d
  · exact absurd call other

/-- A statement loads nothing. -/
theorem loads_eq (h : Effect d text reply) : reply.state.loads = d.loads := by
  cases h with
  | skipBody args parsed =>
    unfold Debugger.skipBody
    split <;> rfl
  | _ => rfl

/-- A statement gives no reason for a stop. -/
theorem lastStop_eq_none (h : Effect d text reply) (clear : d.lastStop = none) :
    reply.state.lastStop = none := by
  cases h with
  | resume mode args parsed => rfl
  | skipBody args parsed =>
    unfold Debugger.skipBody
    split <;> exact clear
  | _ => exact clear

/-- A statement removes no breakpoint. -/
theorem breakpoints_eq_nil (h : Effect d text reply) (none : reply.state.breakpoints = []) :
    d.breakpoints = [] := by
  cases h with
  | skipBody args parsed =>
    unfold Debugger.skipBody at none
    split at none <;> exact none
  | addBreak args position read =>
    exact absurd none (placeAscending_ne_nil position d.breakpoints)
  | _ => exact none

end Effect

/-! ## Micro-steps -/

/-- What a micro-step of the debugger `d` can lead to. -/
inductive Moves (d : Debugger) : Debugger × Tick → Prop
  | idle (empty : d.routines.stack = []) : Moves d (d, .idle)
  | leave (id : RoutineId) (rest : List RoutineId) (stack : d.routines.stack = id :: rest)
      (ended : (d.routines.routine id).atEnd = true) : Moves d (d.leave id, .returned)
  | execute (id : RoutineId) (rest : List RoutineId) (line : String)
      (stack : d.routines.stack = id :: rest) (inside : (d.routines.routine id).atEnd = false)
      (pending : (d.routines.routine id).statement? = some line)
      (done : (d.execute line).result = .ok ()) :
      Moves d ((d.execute line).state.onRoutines (·.modify id Routine.advance), .executed id)
  /-- The pointer is on no statement. -/
  | astray (id : RoutineId) (rest : List RoutineId) (stack : d.routines.stack = id :: rest)
      (inside : (d.routines.routine id).atEnd = false)
      (pending : (d.routines.routine id).statement? = none) :
      Moves d (d, .failed (.crash .noStatement))
  | fail (id : RoutineId) (rest : List RoutineId) (line : String) (f : Failure)
      (stack : d.routines.stack = id :: rest) (inside : (d.routines.routine id).atEnd = false)
      (pending : (d.routines.routine id).statement? = some line)
      (failed : (d.execute line).result = .error f) :
      Moves d ((d.execute line).state, .failed f)

theorem tick_moves (d : Debugger) : Moves d d.tick := by
  unfold tick Routines.top?
  cases stack : d.routines.stack with
  | nil => exact .idle stack
  | cons id rest =>
    dsimp only [List.head?_cons]
    cases ended : (d.routines.routine id).atEnd with
    | true => exact .leave id rest stack ended
    | false =>
      rw [if_neg Bool.false_ne_true]
      cases pending : (d.routines.routine id).statement? with
      | none => exact .astray id rest stack ended pending
      | some line =>
        cases done : (d.execute line).result with
        | error f =>
          simpa only [done] using Moves.fail id rest line f stack ended pending done
        | ok _ =>
          simpa only [done] using Moves.execute id rest line stack ended pending done

variable {d d' : Debugger}

theorem failure_ne_unfinished {f : Failure} (h : d.tick = (d', .failed f)) : f ≠ .unfinished := by
  have moves := h ▸ tick_moves d
  cases moves with
  | astray => simp
  | fail id rest line f stack inside pending failed =>
    rintro rfl
    exact (execute_effect d line).result_ne_unfinished failed

theorem stack_ne_nil_of_executed {id : RoutineId} (h : d.tick = (d', .executed id)) :
    d'.routines.stack ≠ [] := by
  have moves := h ▸ tick_moves d
  cases moves with
  | execute id rest line stack inside pending done =>
    have suffix := (execute_effect d line).stack_suffix
    rw [stack] at suffix
    intro empty
    have nothing : (d.execute line).state.routines.stack = [] := empty
    rw [nothing] at suffix
    simp at suffix

theorem tick_lastStop_eq_none {t : Tick} (h : d.tick = (d', t)) (clear : d.lastStop = none) :
    d'.lastStop = none := by
  have moves := h ▸ tick_moves d
  cases moves with
  | idle | astray => exact clear
  | leave id =>
    unfold leave
    dsimp only
    split <;> exact clear
  | execute id rest line => exact (execute_effect d line).lastStop_eq_none clear
  | fail id rest line => exact (execute_effect d line).lastStop_eq_none clear

theorem loads_tick {t : Tick} (h : d.tick = (d', t)) : d'.loads = d.loads := by
  have moves := h ▸ tick_moves d
  cases moves with
  | idle | astray => rfl
  | leave id =>
    unfold leave
    dsimp only
    split <;> rfl
  | execute id rest line => exact (execute_effect d line).loads_eq
  | fail id rest line => exact (execute_effect d line).loads_eq

theorem tick_breakpoints_eq_nil {t : Tick} (h : d.tick = (d', t)) (none : d'.breakpoints = []) :
    d.breakpoints = [] := by
  have moves := h ▸ tick_moves d
  cases moves with
  | idle | astray => exact none
  | leave id =>
    unfold leave at none
    dsimp only at none
    split at none <;> exact none
  | execute id rest line => exact (execute_effect d line).breakpoints_eq_nil none
  | fail id rest line => exact (execute_effect d line).breakpoints_eq_nil none

theorem tick_of_stack_nil (h : d.routines.stack = []) : d.tick = (d, .idle) := by
  simp only [tick, Routines.top?, h, List.head?_nil]

theorem stack_nil_of_idle (h : d.tick = (d', .idle)) : d'.routines.stack = [] := by
  have moves := h ▸ tick_moves d
  cases moves with
  | idle empty => exact empty

end Debugger

end LineLang
