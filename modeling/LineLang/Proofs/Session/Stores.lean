import LineLang.Proofs.Debugger.Moments
import LineLang.Proofs.Debugger.PartialLoads
import LineLang.Proofs.Debugger.Shifts
import LineLang.Proofs.Immediate.Course
import LineLang.Proofs.Session.Memory

/-!
# Stores stay well formed

What a session does to its memory can be listed: the commands on variables that it comes to, typed
or in a running function or in a script, and the end of a run, with which the variables go. The
memory that these deeds leave is the one that the session has (`Debugger.memory_session`,
`Immediate.memory_typing`). So the values and the positions of the last changes never get out of
step. Together with what is known of functions and breakpoints this makes
`stores_are_well_formed`.
-/

namespace LineLang

/-! ## Functions -/

/-- Every function has the name that it is known by, and the name is a word. -/
def Routines.NamedByWords (rs : Routines RoutineId) : Prop :=
  ∀ name r, rs.known.find? (.function name) = some r → r.name = name ∧ IsWord name

namespace Routines.NamedByWords

variable {rs : Routines RoutineId} {id : RoutineId} {r : Routine}

theorem modify (h : NamedByWords rs) {change : Routine → Routine}
    (kept : ∀ r, rs.known.find? id = some r → (change r).name = r.name) :
    NamedByWords (rs.modify id change) := by
  intro name r found
  rw [Routines.modify, Table.find?_modify] at found
  split at found
  · next here =>
    obtain ⟨r', found', rfl⟩ := Option.map_eq_some_iff.1 found
    obtain ⟨named, word⟩ := h name r' found'
    exact ⟨(kept r' (here ▸ found')).trans named, word⟩
  · exact h name r found

theorem register (h : NamedByWords rs)
    (named : ∀ name, id = .function name → r.name = name ∧ IsWord name) :
    NamedByWords (rs.register id r) := by
  intro name r' found
  rw [Routines.register, Table.find?_insert] at found
  split at found
  · next here =>
    cases found
    exact named name here.symm
  · exact h name r' found

/-- A function is found only if its name can be read. -/
theorem addFunctions {w : Workspace} (h : NamedByWords w.routines) {fs : List Routine}
    (words : ∀ f ∈ fs, IsWord f.name) : NamedByWords (fs.foldl .addFunction w).routines := by
  induction fs generalizing w with
  | nil => exact h
  | cons f fs ih =>
    have word := words f List.mem_cons_self
    refine ih (w := w.addFunction f) (h.register ?_) fun f member =>
      words f (List.mem_cons_of_mem _ member)
    rintro name ⟨⟩
    exact ⟨rfl, word⟩

end Routines.NamedByWords

theorem Outline.words_of_scan (v : Vocabulary) (taken : String → Bool) (offset : Int)
    (script : List String) : ∀ r ∈ (scan v taken offset script).1.functions, IsWord r.name := by
  apply functions_of_readLines
  · intro name offset named _
    exact isWord_of_readName named
  · intro r line _ body _ word
    exact word
  · intro r member
    cases member

namespace Debugger

variable {d d' e : Debugger} {t : Tick} {text : String} {allowed : Debugger → String → Prop}

theorem named_tick (h : d.routines.NamedByWords) (tick : d.tick = (d', t)) :
    d'.routines.NamedByWords := by
  have shifts := tick_shifts tick
  generalize d'.routines = rs at shifts
  cases shifts with
  | stay => exact h
  | leave | advance | call => exact h.modify fun _ _ => rfl
  | skip =>
    refine h.modify fun r found => ?_
    rw [routine_of_find? found]
    rfl

theorem named_execute (h : d.routines.NamedByWords) (text : String) :
    (d.execute text).state.routines.NamedByWords := by
  obtain same | ⟨-, skipped⟩ | ⟨-, name, r, -, pushed⟩ := (execute_effect d text).routines_cases
  · rwa [same]
  · rw [skipped, Debugger.skipBody]
    split
    · exact h
    · refine h.modify fun r found => ?_
      rw [routine_of_find? found]
      unfold Routine.skipBody
      split <;> rfl
  · rw [pushed]
    exact h

theorem named_load (h : d.routines.NamedByWords) (payload : String) :
    (d.load payload).state.routines.NamedByWords := by
  have found {script : List String} {o : Outline}
      (scanned : Outline.scan vocabulary d.isDefined 0 script = (o, none)) :
      (d.withFunctions o.functions).routines.NamedByWords := by
    refine h.addFunctions fun f member => ?_
    exact Outline.words_of_scan vocabulary d.isDefined 0 script f (by rwa [scanned])
  obtain ⟨o, scanned, events, loaded⟩ | ⟨read, line, rest, o, f, -, scanned, -, loaded⟩ :=
    load_cases d payload
  · rw [loaded, Reply.ok, routines_closeCode]
    exact (found scanned).register fun name same => by cases same
  · rw [loaded, Reply.fault, routines_closeCode]
    exact found scanned

/-- Whatever is typed, functions are known by their names. -/
theorem named_invariant : SessionInvariant allowed fun _ d => d.routines.NamedByWords where
  congr h alike _ := by
    rw [alike.routines]
    exact h
  tick h tick := named_tick h tick
  enter h entered := by
    obtain ⟨id, -, -, rfl⟩ | ⟨-, rfl⟩ := entered_cases entered
    · exact h
    · exact h
  load text h := named_load h text
  execute h _ _ := named_execute h _

/-! ## Breakpoints -/

/-- Every breakpoint is a value that can be written. -/
def BreaksAtValues (d : Debugger) : Prop :=
  ∀ position ∈ d.breakpoints, 1 ≤ position ∧ position ≤ 2147483647

theorem mem_placeAscending {value position : Int} {values : List Int}
    (member : position ∈ placeAscending value values) : position = value ∨ position ∈ values := by
  induction values with
  | nil => exact .inl (List.mem_singleton.1 member)
  | cons other rest ih =>
    rw [placeAscending] at member
    grind

theorem breaksAtValues_execute (h : BreaksAtValues d) (text : String) :
    BreaksAtValues (d.execute text).state := by
  have effect := execute_effect d text
  generalize d.execute text = reply at effect
  cases effect with
  | addBreak args position read =>
    intro other member
    obtain rfl | old := mem_placeAscending member
    · exact bounds_of_convertValue read
    · exact h other old
  | skipBody =>
    unfold Debugger.skipBody
    split <;> exact h
  | _ => exact h

theorem breaksAtValues_tick (h : BreaksAtValues d) (tick : d.tick = (d', t)) :
    BreaksAtValues d' := by
  have moves := tick ▸ tick_moves d
  cases moves with
  | idle | astray => exact h
  | leave id =>
    have same : (d.leave id).breakpoints = d.breakpoints := by
      unfold leave
      dsimp only
      split <;> rfl
    unfold BreaksAtValues
    rwa [same]
  | execute id rest line => exact breaksAtValues_execute h line
  | fail id rest line => exact breaksAtValues_execute h line

theorem breaksAtValues_invariant : SessionInvariant allowed fun _ => BreaksAtValues where
  congr h _ same := by
    unfold BreaksAtValues
    rwa [same]
  tick h tick := breaksAtValues_tick h tick
  enter h entered := by
    obtain ⟨id, -, -, rfl⟩ | ⟨-, rfl⟩ := entered_cases entered
    · exact h
    · exact h
  load text h := by
    unfold BreaksAtValues
    rwa [(load_retains _ text).breakpoints]
  execute h _ _ := breaksAtValues_execute h _

/-! ## Memory -/

/-- What executing a line does to the memory, if its command is one on variables. -/
def deed? (line : String) (d : Debugger) : Option Deed :=
  match vocabulary.parse line with
  | .ok statement =>
    match repertoire.ofName? statement.command with
    | some (.session (.onVariables c)) => some (.perform c statement.args (d.positionOr none))
    | _ => none
  | .error _ => none

/-- What a micro-step does to the memory: the statement under the pointer is executed, or the last
frame is taken away. -/
def deedsOfTick (d : Debugger) : List Deed :=
  if d.isEnded then if d.routines.stack.tail.isEmpty then [.clear] else []
  else (d.pending?.bind d.deed?).toList

/-- What a line does to the memory. -/
def deedsOfLine (fuel : Nat) (text : String) (d : Debugger) : List Deed :=
  if d.phase = .waiting then []
  else
    match commandOf? text with
    | some (.resume mode) => (statesOfStart fuel mode d).flatMap deedsOfTick
    | _ => (d.deed? text).toList

/-- What a session does to the memory. -/
def deedsOfSession (fuel : Nat) (lines : List String) (d : Debugger) : List Deed :=
  (session fuel lines d).flatMap fun t => t.before.deedsOfLine fuel t.text

/-- Commands that are not on variables leave them alone. -/
theorem vars_perform (d : Debugger) (args : List String) {c : Command}
    (other : ∀ command, c ≠ .session (.onVariables command)) :
    (d.perform args c).state.vars = d.vars := by
  cases c with
  | session c =>
    cases c with
    | onVariables c => exact absurd rfl (other c)
    | setCode => exact congrArg Workspace.vars (Session.enter_toWorkspace _ _)
    | endSetCode =>
      simp only [perform, SessionCommand.perform_endSetCode]
      cases closed : d.endCode with
      | error f => rfl
      | ok s => exact congrArg Workspace.vars (Session.toWorkspace_of_endCode closed)
  | skipBody =>
    simp only [perform, Debugger.skipBody]
    split <;> rfl
  | call =>
    simp only [perform, call_eq]
    cases readName args[0]? with
    | error f => rfl
    | ok name =>
      dsimp only
      cases d.function name <;> rfl
  | resume | printTrace => rfl
  | addBreak =>
    simp only [perform, addBreak_eq]
    cases convertValue args[0]? <;> rfl

theorem memory_execute (d : Debugger) (text : String) :
    (d.execute text).state.vars.memory = d.vars.memory.afterAll (d.deed? text).toList := by
  obtain ⟨f, (unread : vocabulary.parse text = .error f), refused⟩ |
      ⟨c, args, (parsed : vocabulary.parse text = .ok ⟨c.name, args⟩), performed⟩ :=
    repertoire.dispatch_cases text Debugger
  · rw [execute, refused, deed?, unread]
    rfl
  · rw [execute, performed, deed?, parsed]
    dsimp only
    rw [repertoire.ofName?_name c]
    split
    · next c same =>
      cases same
      rw [perform, SessionCommand.perform_onVariables]
      cases done : c.perform args (d.positionOr none) d.vars with
      | error f => exact (Memory.after_perform_of_error done).symm
      | ok effect => exact (Memory.after_perform_of_ok done).symm
    · next other =>
      rw [vars_perform d args fun c same => other c (congrArg some same)]
      rfl

theorem memory_tick (tick : d.tick = (d', t)) :
    d'.vars.memory = d.vars.memory.afterAll d.deedsOfTick := by
  have moves := tick ▸ tick_moves d
  unfold deedsOfTick
  cases moves with
  | idle empty =>
    have inside : d.isEnded = false := by simp [isEnded, Routines.top?, empty]
    rw [inside, pending?_of_stack_nil empty]
    rfl
  | astray id rest stack inside pending =>
    rw [isEnded_of_stack stack, inside, pending?_of_stack stack inside, pending]
    rfl
  | leave id rest stack ended =>
    have left : (d.onRoutines fun rs => (rs.modify id Routine.rewind).pop).routines.stack = rest :=
      congrArg List.tail stack
    rw [isEnded_of_stack stack, ended, stack, if_pos rfl, List.tail_cons, Debugger.leave, left]
    cases rest <;> rfl
  | execute id rest line stack inside pending done =>
    rw [isEnded_of_stack stack, inside, pending?_of_stack stack inside, pending]
    exact memory_execute d line
  | fail id rest line f stack inside pending failed =>
    rw [isEnded_of_stack stack, inside, pending?_of_stack stack inside, pending]
    exact memory_execute d line

/-- Runs do to the memory what their micro-steps do. -/
theorem memory_invariant (m : Memory) :
    RunInvariant fun history d => d.vars.memory = m.afterAll (history.flatMap deedsOfTick) where
  congr h alike _ := by
    rw [alike.vars]
    exact h
  tick h tick := by
    rw [memory_tick tick, h, List.flatMap_append, Memory.afterAll_append, List.flatMap_singleton]
  enter h entered := by
    obtain ⟨id, -, -, rfl⟩ | ⟨-, rfl⟩ := entered_cases entered
    · exact h
    · exact h

theorem memory_line (fuel : Nat) (text : String) (d : Debugger) :
    (d.line fuel text).state.vars.memory = d.vars.memory.afterAll (d.deedsOfLine fuel text) := by
  have line (reply : Reply Debugger Unit)
      (taken : (if d.phase = .waiting then d.load text else d.statement fuel text) = reply) :
      (d.line fuel text).state.vars = reply.state.vars := by
    rw [Debugger.line, taken]
    exact (settled_alike text reply).vars
  unfold deedsOfLine
  by_cases waiting : d.phase = .waiting
  · rw [if_pos waiting, line _ (if_pos waiting), (load_retains d text).vars]
    rfl
  · rw [if_neg waiting]
    by_cases resume : ∃ mode, commandOf? text = some (.resume mode)
    · obtain ⟨mode, command⟩ := resume
      rw [line _ ((if_neg waiting).trans (statement_of_resume command)), command]
      have ran : (d.start fuel mode).state.vars.memory =
          d.vars.memory.afterAll (([] ++ statesOfStart fuel mode d).flatMap deedsOfTick) :=
        (memory_invariant d.vars.memory).start rfl fuel mode
      rwa [List.nil_append] at ran
    · have other := not_exists.1 resume
      rw [line _ ((if_neg waiting).trans (statement_of_other other)), memory_execute]
      split
      · next mode command => exact absurd command (other mode)
      · rfl

theorem memory_session (fuel : Nat) (lines : List String) (d : Debugger) :
    (afterSession fuel lines d).vars.memory =
      d.vars.memory.afterAll (deedsOfSession fuel lines d) := by
  induction lines generalizing d with
  | nil => rfl
  | cons text rest ih =>
    have later := ih (d.line fuel text).state
    rw [memory_line, ← Memory.afterAll_append] at later
    exact later

end Debugger

namespace Immediate

variable {i i' : Immediate} {line : String}

/-! ## The immediate interpreter -/

theorem named_alter (h : i.routines.NamedByWords) (alters : Alters i line i') :
    i'.routines.NamedByWords := by
  cases alters with
  | onVariables | idle => exact h
  | setCode =>
    rw [onSession, Session.requestCode, Session.enter_routines]
    exact h
  | endSetCode args parsed s closed =>
    rwa [show s.routines = i.routines from
      congrArg Workspace.routines (Session.toWorkspace_of_endCode closed)]
  | define args parsed name named =>
    refine h.register ?_
    rintro _ ⟨⟩
    exact ⟨rfl, isWord_of_readName named⟩

/-- Whatever is typed, functions are known by their names. -/
theorem named_invariant :
    SessionInvariant (fun _ i => i.routines.NamedByWords) fun _ _ _ => True where
  body _ :=
    { alter := fun h _ => named_alter h
      enter := fun h _ => h
      place := fun h _ _ _ => ⟨h.modify fun _ _ => rfl, trivial⟩
      leave := fun h _ => h.modify fun _ _ => rfl }
  collect h _ _ _ := h.modify fun _ _ => rfl
  close h _ := ⟨h, trivial⟩
  ready h := by
    rw [onSession, Session.enter_routines]
    exact h
  report h := h

/-- What carrying out a line does to the memory, if its command is one on variables. -/
def deed? (line : String) (i : Immediate) : Option Deed :=
  match vocabulary.parse line with
  | .ok statement =>
    match repertoire.ofName? statement.command with
    | some (.session (.onVariables c)) =>
      some (.perform c statement.args (i.positionOr (some i.position)))
    | _ => none
  | .error _ => none

/-- What the statements of a trace do to the memory. -/
def deedsOfTrace (trace : List (String × Immediate)) : List Deed :=
  trace.flatMap fun s => (s.2.deed? s.1).toList

/-- What lines do to the memory that are typed one after the other. -/
def deedsOfTyping : List String → Immediate → List Deed
  | [], _ => []
  | text :: rest, i => deedsOfTrace (i.lineCourse text) ++ deedsOfTyping rest (i.line text).state

theorem deed?_of_parse {c : Command} {args : List String}
    (parsed : vocabulary.parse line = .ok ⟨c.name, args⟩)
    (other : ∀ command, c ≠ .session (.onVariables command)) : i.deed? line = none := by
  unfold deed?
  rw [parsed]
  dsimp only
  rw [repertoire.ofName?_name c]
  split
  · next same =>
    cases same
    exact absurd rfl (other _)
  · rfl

/-- A statement that calls no function does its own deed and nothing else to the memory. -/
theorem memory_dispatch {act : String → Immediate → Reply Immediate Unit}
    (bare : i.enters? line = none) :
    (i.dispatch act line).state.vars.memory = i.vars.memory.afterAll (i.deed? line).toList := by
  obtain ⟨f, (unread : vocabulary.parse line = .error f), refused⟩ |
      ⟨c, args, (parsed : vocabulary.parse line = .ok ⟨c.name, args⟩), -⟩ :=
    repertoire.dispatch_cases line Immediate
  · rw [dispatch, refused, deed?, unread]
    rfl
  · by_cases onVariables : ∃ command, c = .session (.onVariables command)
    · obtain ⟨c, rfl⟩ := onVariables
      have deed : i.deed? line =
          some (.perform c args (i.positionOr (some i.position))) := by
        unfold deed?
        rw [parsed]
        dsimp only
        rw [repertoire.ofName?_name (.session (.onVariables c))]
      rw [dispatch_of_parse parsed, perform, SessionCommand.perform_onVariables, deed]
      cases done : c.perform args (i.positionOr (some i.position)) i.vars with
      | error f => exact (Memory.after_perform_of_error done).symm
      | ok effect => exact (Memory.after_perform_of_ok done).symm
    · rw [deed?_of_parse parsed (not_exists.1 onVariables)]
      have effect := dispatch_effect act i line
      generalize i.dispatch act line = reply at effect
      cases effect with
      | refuse | tooLong => rfl
      | call name r enters =>
        rw [enters?_eq_some_iff.2 enters] at bare
        cases bare
      | alter i' alters =>
        cases alters with
        | onVariables c' args' vars lines parsed' =>
          rw [parsed, Except.ok.injEq, Statement.mk.injEq] at parsed'
          exact absurd ⟨c', repertoire.name_injective parsed'.1⟩ onVariables
        | setCode =>
          have same := Session.enter_toWorkspace { i.toSession with requested := true } .waiting
          exact congrArg (fun w : Workspace => w.vars.memory) same
        | endSetCode args' parsed' s closed =>
          exact congrArg (fun w : Workspace => w.vars.memory)
            (Session.toWorkspace_of_endCode closed)
        | define | idle => rfl

/-- The memory after a reply is what the statements on the trace have made of it. -/
def Remembers (i : Immediate) (reply : Reply Immediate Unit) (trace : List (String × Immediate)) :
    Prop :=
  reply.state.vars.memory = i.vars.memory.afterAll (deedsOfTrace trace)

theorem remembers_invariant : CourseInvariant Remembers where
  done _ := rfl
  unfinished _ := rfl
  single act bare := by
    unfold Remembers deedsOfTrace
    rw [memory_dispatch bare, List.flatMap_singleton]
  enter {i line name r reply trace} enters h := by
    obtain ⟨args, called, -⟩ := enters.called
    have none : i.deed? line = none := deed?_of_parse called (by simp)
    unfold Remembers deedsOfTrace
    rw [List.flatMap_cons, none]
    exact h
  congr h _ _ vars := by
    unfold Remembers
    rw [← vars]
    exact h
  onRoutines _ h := h
  andThen {i reply trace next after} h later := by
    obtain ⟨middle, result⟩ := reply
    cases result with
    | error f =>
      have nothing : trace ++ Reply.goOn ⟨middle, .error f⟩ after = trace := List.append_nil trace
      rw [nothing]
      exact h
    | ok _ =>
      have first : middle.vars.memory = _ := h
      have rest : (next middle).state.vars.memory =
          middle.vars.memory.afterAll (deedsOfTrace (after middle)) := later
      change (next middle).state.vars.memory =
        i.vars.memory.afterAll (deedsOfTrace (trace ++ after middle))
      rw [rest, first, ← Memory.afterAll_append]
      exact congrArg _ List.flatMap_append.symm

theorem memory_line (text : String) (i : Immediate) :
    (i.line text).state.vars.memory =
      i.vars.memory.afterAll (deedsOfTrace (i.lineCourse text)) := by
  have taken : (if i.phase = .waiting then i.load text
      else i.count.statement text).state.vars.memory =
      i.vars.memory.afterAll (deedsOfTrace (i.lineCourse text)) := by
    unfold lineCourse
    split
    · have script := remembers_invariant.statements (Text.scriptLines text) i
      refine Eq.trans ?_ script
      exact congrArg (fun w : Workspace => w.vars.memory) (Session.enter_toWorkspace _ _)
    · exact remembers_invariant.statement text i
  unfold Immediate.line Reply.settle
  split <;> exact taken

theorem memory_typing (lines : List String) (i : Immediate) :
    (typing lines i).vars.memory = i.vars.memory.afterAll (deedsOfTyping lines i) := by
  induction lines generalizing i with
  | nil => rfl
  | cons text rest ih =>
    have later := ih (i.line text).state
    rw [memory_line, ← Memory.afterAll_append] at later
    exact later

/-- Statements outside every function are at the line that was counted last. -/
theorem isPlaced_of_deed? {deed : Deed} (done : i.deed? line = some deed) : deed.IsPlaced := by
  unfold deed? at done
  split at done
  · split at done
    · cases done
      change i.positionOr (some i.position) ≠ none
      unfold Workspace.positionOr
      split <;> simp
    · cases done
  · cases done

theorem isPlaced_deedsOfTyping (lines : List String) (i : Immediate) :
    ∀ deed ∈ deedsOfTyping lines i, deed.IsPlaced := by
  induction lines generalizing i with
  | nil => nofun
  | cons text rest ih =>
    intro deed member
    obtain here | later := List.mem_append.1 member
    · obtain ⟨s, -, done⟩ := List.mem_flatMap.1 here
      exact isPlaced_of_deed? (Option.mem_toList.1 done)
    · exact ih _ deed later

end Immediate

/-! ## Both -/

/-- Whatever is typed into a new debugger or a new immediate interpreter, and however the lines end:
the values of the variables and the positions of their last changes have the same keys in the same
order; the keys are words and the values are bounded; every function is known by its name, a word;
breakpoints are values that can be written; and the immediate interpreter knows the position of
every change. -/
theorem stores_are_well_formed (strict : Bool) (lines : List String) :
    (∀ fuel,
      let d := Debugger.afterSession fuel lines { strict }
      let m := Memory.afterAll {} (Debugger.deedsOfSession fuel lines { strict })
      d.vars.memory = m ∧ m.WellFormed ∧ d.routines.NamedByWords ∧
        ∀ position ∈ d.breakpoints, 1 ≤ position ∧ position ≤ 2147483647) ∧
    let i := Immediate.typing lines { strict }
    let m := Memory.afterAll {} (Immediate.deedsOfTyping lines { strict })
    i.vars.memory = m ∧ m.WellFormed ∧ i.routines.NamedByWords ∧ m.Placed := by
  have named : Debugger.SessionInvariant (fun _ _ => True) fun _ d => d.routines.NamedByWords :=
    Debugger.named_invariant
  have breaks : Debugger.SessionInvariant (fun _ _ => True) fun _ => Debugger.BreaksAtValues :=
    Debugger.breaksAtValues_invariant
  refine ⟨fun fuel => ⟨?_, .afterAll .empty _, ?_, ?_⟩, ?_, .afterAll .empty _, ?_, ?_⟩
  · exact Debugger.memory_session fuel lines { strict }
  · exact named.session fuel lines [] nofun fun _ _ => trivial
  · exact breaks.session fuel lines [] nofun fun _ _ => trivial
  · exact Immediate.memory_typing lines { strict }
  · exact Immediate.named_invariant.holds nofun lines
  · exact Memory.Placed.empty.afterAll (Immediate.isPlaced_deedsOfTyping lines { strict })

/-- A variable that is removed and set again comes last in both tables. -/
example :
    let lines := ["set a 5", "set b 3", "rem a", "sub b 7", "set a 1", "rem c"]
    let m := Memory.afterAll {} (Immediate.deedsOfTyping lines {})
    m.values.entries = [("b", -4), ("a", 1)] ∧
      m.changes.entries = [("b", some 3), ("a", some 4)] := by
  decide +kernel

end LineLang
