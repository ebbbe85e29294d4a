import LineLang.Proofs.Debugger.Crashes
import LineLang.Proofs.Debugger.Meaning
import LineLang.Proofs.Debugger.Rewinding
import LineLang.Proofs.Debugger.Schedule
import LineLang.Proofs.Outline.Layout

/-!
# Programs run their main lines

The bodies of functions are recognised twice: once when a script is loaded, and again whenever a
run passes over a header. The two agree (`programs_run_main_lines`). As long as no header is typed
on a frame, the pointer of every program is on a line that is not indented, or at the end
(`Poised`); an unknown command is never met by a program itself, only by a function; and a program
that runs from its start to its end executes the statements of the main program, each once and in
order (`Underway`).
-/

namespace LineLang

/-! ## Pointers at the margin -/

theorem Debugger.isIndented_of_parse {line : String} {statement : Statement}
    (parsed : vocabulary.parse line = .ok statement) : Text.isIndented line = false := by
  cases indented : Text.isIndented line with
  | false => rfl
  | true =>
    exact absurd parsed
      (Vocabulary.parse_indented_ne_ok (by decide +kernel) (by decide +kernel) indented)

namespace Routine

variable {r : Routine} {line : String} {position : Int} {lines : List String}

/-- The lines from the pointer on. -/
def left (r : Routine) : List String :=
  r.lines.drop r.pointer.toNat

theorem InRange.ahead (h : r.InRange) : r.Ahead r.position r.left :=
  ⟨rfl, h.1, h.2, rfl⟩

theorem Ahead.inRange (h : r.Ahead position lines) : r.InRange :=
  ⟨h.nonneg, h.le_length⟩

theorem left_of_start (start : r.pointer = 0) : r.left = r.lines := by
  rw [left, start]
  rfl

theorem left_of_atEnd (ended : r.atEnd = true) : r.left = [] := by
  simp only [atEnd, decide_eq_true_eq] at ended
  rw [left, ended]
  simp

/-- A script that was read without a fault and whose pointer is on a statement of the main program,
or at the end. -/
structure Poised (r : Routine) : Prop where
  scanned : ∃ taken o, Outline.scan Debugger.vocabulary taken 0 r.lines = (o, none)
  inRange : r.InRange
  laid : Outline.WellLaid Debugger.vocabulary false r.left

namespace Poised

theorem of_start {taken : String → Bool} {o : Outline}
    (scanned : Outline.scan Debugger.vocabulary taken 0 r.lines = (o, none))
    (start : r.pointer = 0) : r.Poised := by
  refine ⟨⟨taken, o, scanned⟩, inRange_of_start start, ?_⟩
  rw [left_of_start start]
  exact Outline.wellLaid_of_scan Debugger.isIndented_of_parse scanned

theorem rewind (h : r.Poised) : r.rewind.Poised := by
  obtain ⟨taken, o, scanned⟩ := h.scanned
  exact of_start (r := r.rewind) scanned rfl

/-- Unless it is at the end, the pointer is on a statement that is not indented. -/
theorem pending (h : r.Poised) (inside : r.atEnd = false) :
    ∃ line rest statement, r.left = line :: rest ∧ r.statement? = some line ∧
      Text.isIndented line = false ∧ Debugger.vocabulary.parse line = .ok statement ∧
      Outline.WellLaid Debugger.vocabulary (statement.command = Outline.header) rest := by
  have ahead := h.inRange.ahead
  have laid := h.laid
  generalize r.left = left at ahead laid
  cases laid with
  | nil => cases ahead.atEnd.symm.trans inside
  | statement margin parsed rest =>
    exact ⟨_, _, _, rfl, ahead.statement?, margin, parsed, rest⟩

/-- A statement that is no header is followed by another statement. -/
theorem advance (h : r.Poised) (inside : r.atEnd = false) (pending : r.statement? = some line)
    (other : Debugger.commandOf? line ≠ some .skipBody) :
    r.advance.Poised ∧ Outline.atMargin r.left = line :: Outline.atMargin r.advance.left := by
  obtain ⟨line', rest, ⟨command, args⟩, left, pending', margin, parsed, laid⟩ := h.pending inside
  cases pending'.symm.trans pending
  have noHeader : command ≠ Outline.header := by
    rintro rfl
    exact other (Debugger.commandOf?_of_parse (c := .skipBody) parsed)
  rw [decide_eq_false noHeader] at laid
  have ahead := (left ▸ h.inRange.ahead).advance
  have left' : r.advance.left = rest := ahead.ahead
  refine ⟨⟨h.scanned, ahead.inRange, ?_⟩, ?_⟩
  · rw [left']
    exact laid
  · rw [left, left']
    simp [Outline.atMargin, margin]

/-- Below the body of a header stands the next statement. -/
theorem pastBody (h : r.Poised) (inside : r.atEnd = false) (pending : r.statement? = some line) :
    r.pastBody.Poised ∧ Outline.atMargin r.left = line :: Outline.atMargin r.pastBody.left := by
  obtain ⟨line', rest, statement, left, pending', margin, parsed, laid⟩ := h.pending inside
  cases pending'.symm.trans pending
  obtain ⟨passed, skipped, past⟩ := skipBody_of_statement? pending
  obtain ⟨passed', skipped', -, ahead⟩ := (left ▸ h.inRange.ahead).skipBody
  cases skipped'.symm.trans skipped
  rw [past] at ahead
  have left' : r.pastBody.left = rest.dropWhile Text.isIndented := ahead.ahead
  refine ⟨⟨h.scanned, ahead.inRange, ?_⟩, ?_⟩
  · rw [left']
    exact laid.dropWhile
  · rw [left, left', Outline.atMargin_dropWhile]
    simp [Outline.atMargin, margin]

end Poised

end Routine

namespace Debugger

variable {d d' e x y : Debugger} {t : Tick} {id : RoutineId} {n : Nat} {text line : String}
  {lines : List String} {history states : List Debugger} {o : Outcome} {mode : RunMode}

/-- Every program is poised. -/
def Poised (d : Debugger) : Prop :=
  ∀ n, (d.routines.routine (.program n)).Poised

/-- A header is not typed while there is a frame. -/
def HeaderOffStack (d : Debugger) (text : String) : Prop :=
  d.phase ≠ .waiting → commandOf? text = some .skipBody → d.routines.stack = []

instance (d : Debugger) (text : String) : Decidable (d.HeaderOffStack text) :=
  inferInstanceAs (Decidable (_ → _ → _))

theorem poised_fresh (strict : Bool) : Poised { strict } :=
  fun _ => .of_start (rfl : Outline.scan vocabulary (fun _ => false) 0 [] = ({}, none)) rfl

namespace Poised

theorem congr (h : Poised d) (routines : e.routines = d.routines) : Poised e := by
  intro n
  rw [routines]
  exact h n

theorem modify (h : Poised d) {change : Routine → Routine}
    (kept : ∀ n, id = .program n → (change (d.routines.routine id)).Poised) :
    Poised (d.onRoutines (·.modify id change)) := by
  intro n
  obtain same | ⟨rfl, changed⟩ := d.routines.routine_modify_cases id (.program n) change
  · exact same ▸ h n
  · exact changed ▸ kept n rfl

theorem tick (h : Poised d) (tick : d.tick = (d', t)) : Poised d' := by
  have shifts := tick_shifts tick
  generalize routines : d'.routines = rs at shifts
  have moved : Poised (d.onRoutines fun _ => rs) := by
    cases shifts with
    | stay => exact h
    | leave => exact h.modify fun n same => same ▸ (h n).rewind
    | advance _ inside pending other =>
      refine h.modify fun n same => ?_
      subst same
      exact ((h n).advance inside pending other.1).1
    | skip _ inside pending =>
      refine h.modify fun n same => ?_
      subst same
      exact ((h n).pastBody inside pending).1
    | call _ inside pending call =>
      refine h.modify fun n same => ?_
      subst same
      exact ((h n).advance inside pending (by simp [call])).1
  exact moved.congr routines

theorem entered (h : Poised d) (entered : d.entered? = some e) : Poised e := by
  obtain ⟨id, -, -, rfl⟩ | ⟨-, rfl⟩ := entered_cases entered
  · exact h
  · exact h

theorem load (h : Poised d) (payload : String) : Poised (d.load payload).state := by
  intro n
  obtain same | new := (load_extends d payload).routine_cases (.program n)
  · rw [same]
    exact h n
  · generalize (d.load payload).state.routines.routine (.program n) = r at new
    cases new with
    | program scanned => exact .of_start scanned rfl

theorem execute (h : Poised d) (ready : d.phase ≠ .waiting) (fine : d.HeaderOffStack line) :
    Poised (d.execute line).state := by
  have effect := (execute_effect d line).routines_cases
  obtain same | ⟨header, skipped⟩ | ⟨-, name, r, -, pushed⟩ := effect
  · exact h.congr same
  · rw [skipped, Debugger.skipBody, Routines.top?, fine ready header]
    exact h
  · rw [pushed]
    exact h

end Poised

theorem poised_invariant : SessionInvariant HeaderOffStack fun _ => Poised where
  congr h alike _ := h.congr alike.routines
  tick h tick := h.tick tick
  enter h entered := h.entered entered
  load text h := h.load text
  execute h fine ready := h.execute ready fine

/-- A program knows all its commands: what is not known is a line of a function. -/
theorem Poised.top_of_unknownCommand (h : Poised d)
    (tick : d.tick = (d', .failed (.fault .unknownCommand))) :
    ∃ name, d.routines.top? = some (.function name) := by
  have moves := tick ▸ tick_moves d
  cases moves with
  | fail id rest line f stack inside pending failed =>
    cases id with
    | function name => exact ⟨name, by rw [Routines.top?, stack, List.head?_cons]⟩
    | program n =>
      obtain ⟨line', -, statement, -, pending', -, parsed, -⟩ := (h n).pending inside
      cases pending'.symm.trans pending
      cases parsed.symm.trans ((execute_effect d line).parse_of_unknownCommand failed)

/-! ## What a program executes -/

/-- The statement that the next micro-step executes in the frame of the routine. -/
def executedBy (id : RoutineId) (d : Debugger) : Option String :=
  if d.tick.2 = .executed id then d.pending? else none

theorem executedBy_eq_none (tick : d.tick = (d', t)) (other : t ≠ .executed id) :
    executedBy id d = none := by
  rw [executedBy, tick, if_neg other]

/-- The program has a frame below nothing but functions, and what it has executed and the statements
ahead of it make up the main program. -/
structure Underway (n : Nat) (lines : List String) (history : List Debugger) (x : Debugger) :
    Prop where
  poised : Poised x
  script : (x.routines.routine (.program n)).lines = lines
  stack : ∃ fs, x.routines.stack = fs ++ [.program n] ∧ ∀ f ∈ fs, ∃ name, f = .function name
  executed : history.filterMap (executedBy (.program n)) ++
    Outline.atMargin (x.routines.routine (.program n)).left = Outline.atMargin lines

/-- The frame of the program is gone, and it has executed its main program. -/
def Completed (n : Nat) (lines : List String) (history : List Debugger) (x : Debugger) : Prop :=
  x.routines.stack = [] ∧
    history.filterMap (executedBy (.program n)) = Outline.atMargin lines

namespace Underway

theorem congr (h : Underway n lines history x) (same : y.routines = x.routines) :
    Underway n lines history y := by
  refine ⟨h.poised.congr same, ?_, ?_, ?_⟩ <;> rw [same]
  · exact h.script
  · exact h.stack
  · exact h.executed

/-- A micro-step leads on, if the program executes the next of its statements or none at all. -/
theorem step (h : Underway n lines history x) (tick : x.tick = (y, t))
    (stack : ∃ fs, y.routines.stack = fs ++ [.program n] ∧ ∀ f ∈ fs, ∃ name, f = .function name)
    (executes : Outline.atMargin (x.routines.routine (.program n)).left =
      (executedBy (.program n) x).toList ++
        Outline.atMargin (y.routines.routine (.program n)).left) :
    Underway n lines (history ++ [x]) y := by
  refine ⟨h.poised.tick tick, ?_, stack, ?_⟩
  · rw [lines_tick tick]
    exact h.script
  · have last : [x].filterMap (executedBy (.program n)) = (executedBy (.program n) x).toList := by
      cases now : executedBy (.program n) x <;> simp [now]
    have executed := h.executed
    rw [executes] at executed
    rw [List.filterMap_append, ← executed, List.append_assoc, last]

/-- A statement of the program leads to the next one, and one of another frame does not concern
it. -/
theorem step_of_executed {top : RoutineId} {rest : List RoutineId} (gs : List RoutineId)
    (h : Underway n lines history x) (tick : x.tick = (y, .executed top))
    (stack : x.routines.stack = top :: rest) (inside : (x.routines.routine top).atEnd = false)
    (pending : (x.routines.routine top).statement? = some line)
    (pushed : y.routines.stack = gs ++ x.routines.stack)
    (functions : ∀ g ∈ gs, ∃ name, g = .function name) {change : Routine → Routine}
    (changed : ∀ j, y.routines.routine j = (x.routines.modify top change).routine j)
    (next : top = .program n → Outline.atMargin (x.routines.routine top).left =
      line :: Outline.atMargin (change (x.routines.routine top)).left) :
    Underway n lines (history ++ [x]) y := by
  obtain ⟨fs, split, above⟩ := h.stack
  refine h.step tick ⟨gs ++ fs, ?_, ?_⟩ ?_
  · rw [pushed, split, List.append_assoc]
  · intro f member
    exact (List.mem_append.1 member).elim (functions f) (above f)
  · by_cases own : top = .program n
    · have executed : executedBy (.program n) x = some line := by
        rw [executedBy, tick, if_pos (own ▸ rfl), pending?_of_stack stack inside, pending]
      rw [executed, ← own, next own, changed,
        Routines.routine_modify_self (Routines.find?_of_inside inside)]
      rfl
    · rw [executedBy_eq_none tick (by simpa using own), changed,
        Routines.routine_modify_of_ne (Ne.symm own)]
      rfl

theorem tick (h : Underway n lines history x) (tick : x.tick = (y, t)) :
    Underway n lines (history ++ [x]) y ∨ Completed n lines (history ++ [x]) y := by
  have shifts := tick_shifts tick
  generalize routines : y.routines = rs at shifts
  cases shifts with
  | stay still =>
    have same : executedBy (.program n) x = none :=
      executedBy_eq_none tick fun executed => still (executed ▸ trivial)
    exact .inl (h.step tick (routines ▸ h.stack) (by rw [same, routines]; rfl))
  | @leave top rest stack ended =>
    have none : executedBy (.program n) x = none := executedBy_eq_none tick (by simp)
    have popped : y.routines.stack = rest := by
      rw [routines]
      exact Routines.stack_pop_modify stack _
    obtain ⟨fs, split, above⟩ := h.stack
    rw [stack] at split
    cases fs with
    | nil =>
      cases split
      refine .inr ⟨popped, ?_⟩
      have executed := h.executed
      rw [Routine.left_of_atEnd ended] at executed
      simpa [none, Outline.atMargin] using executed
    | cons f fs =>
      obtain ⟨rfl, rfl⟩ := List.cons.inj split
      obtain ⟨name, rfl⟩ := above top List.mem_cons_self
      refine .inl (h.step tick ⟨fs, popped, fun g member =>
        above g (List.mem_cons_of_mem _ member)⟩ ?_)
      have kept : y.routines.routine (.program n) = x.routines.routine (.program n) := by
        rw [routines]
        exact Routines.routine_modify_of_ne (by simp)
      rw [none, kept]
      rfl
  | @advance top rest line stack inside pending other =>
    refine .inl (h.step_of_executed [] tick stack inside pending (by rw [routines]; rfl) (by simp)
      (fun j => congrArg (·.routine j) routines) ?_)
    rintro rfl
    exact ((h.poised n).advance inside pending other.1).2
  | @skip top rest line stack inside pending =>
    refine .inl (h.step_of_executed [] tick stack inside pending (by rw [routines]; rfl) (by simp)
      (fun j => congrArg (·.routine j) routines) ?_)
    rintro rfl
    exact ((h.poised n).pastBody inside pending).2
  | @call top rest line name stack inside pending call =>
    refine .inl (h.step_of_executed [.function name] tick stack inside pending
      (by rw [routines]; rfl) (by simp) (fun j => congrArg (·.routine j) routines) ?_)
    rintro rfl
    exact ((h.poised n).advance inside pending (by simp [call])).2

end Underway

/-- Once the stack is empty, nothing more is executed. -/
theorem Completed.tick (h : Completed n lines history x) (tick : x.tick = (y, t)) :
    Completed n lines (history ++ [x]) y := by
  obtain ⟨empty, executed⟩ := h
  rw [tick_of_stack_nil empty] at tick
  cases tick
  have none : executedBy (.program n) x = none :=
    executedBy_eq_none (tick_of_stack_nil empty) (by simp)
  exact ⟨empty, by simpa [none] using executed⟩

theorem underway_invariant (n : Nat) (lines : List String) :
    StepInvariant fun history x => Underway n lines history x ∨ Completed n lines history x where
  congr h alike _ :=
    h.imp (·.congr alike.routines) fun completed => ⟨alike.routines ▸ completed.1, completed.2⟩
  tick h tick := h.elim (·.tick tick) fun completed => .inr (completed.tick tick)

/-! ## Runs to the end -/

/-- Starts with modes and breakpoints of one's choice are made up to the first that finishes. The
list has the states from which they make micro-steps. -/
inductive RunsOut : Debugger → List Debugger → Debugger → Prop
  | finish {d d' : Debugger} {states : List Debugger} {r : Resumption}
      (traverses : Traverses r.mode (d.withBreakpoints r.breakpoints) states d' (.ok .finished)) :
      RunsOut d states d'
  | again {d d' final : Debugger} {states later : List Debugger} {r : Resumption} {o : Outcome}
      (traverses : Traverses r.mode (d.withBreakpoints r.breakpoints) states d' o)
      (unfinished : o ≠ .ok .finished) (rest : RunsOut d' later final) :
      RunsOut d (states ++ later) final

theorem stack_ne_nil_of_failed {f : Failure} (tick : d.tick = (d', .failed f)) :
    d'.routines.stack ≠ [] := by
  have shifts := tick_shifts tick
  generalize d'.routines = rs at shifts
  cases shifts with
  | stay =>
    intro empty
    rw [tick_of_stack_nil empty] at tick
    cases tick

/-- A start leaves an empty stack if and only if it finishes. -/
theorem Traverses.stack_eq_nil_iff (h : Traverses mode d states d' o)
    (entered : d.entered? = some e) : d'.routines.stack = [] ↔ o = .ok .finished := by
  obtain ⟨last, runs, rfl⟩ := (ends_iff_runs entered).1 (ends_iff_traverses.2 ⟨states, h⟩)
  cases o with
  | error f =>
    obtain ⟨passed, before, -, concludes⟩ := runs_iff_passes.1 runs
    cases concludes with
    | fail tick => simpa [ended] using stack_ne_nil_of_failed tick
  | ok reason =>
    change last.routines.stack = [] ↔ _
    constructor
    · intro empty
      by_contra paused
      exact runs.stack_of_paused (depth_pos_of_entered entered) (by simpa using paused) empty
    · intro finished
      cases finished
      exact runs.stack_of_finished

theorem Underway.runsOut (h : Underway n lines history e) (entered : d.entered? = some e)
    (runs : RunsOut d states d') :
    (history ++ states).filterMap (executedBy (.program n)) = Outline.atMargin lines := by
  induction runs generalizing history e with
  | @finish d d' states r traverses =>
    have entered' := entered_withBreakpoints entered r.breakpoints
    obtain underway | completed := (underway_invariant n lines).traverses entered'
      (.inl (h.congr rfl)) traverses
    · obtain ⟨fs, stack, -⟩ := underway.stack
      have empty := (traverses.stack_eq_nil_iff entered').2 rfl
      simp [stack] at empty
    · exact completed.2
  | @again d d' final states later r o traverses unfinished _ ih =>
    have entered' := entered_withBreakpoints entered r.breakpoints
    have framed : d'.routines.stack ≠ [] :=
      mt (traverses.stack_eq_nil_iff entered').1 unfinished
    obtain underway | completed := (underway_invariant n lines).traverses entered'
      (.inl (h.congr rfl)) traverses
    · rw [← List.append_assoc]
      exact ih underway (entered?_of_stack_ne_nil framed)
    · exact absurd completed.1 framed

/-- A program that is put on an empty stack has all its statements ahead. -/
theorem underway_of_entered (poised : Poised x) (rewound : Rewound x)
    (empty : x.routines.stack = []) (program : x.program? = some (.program n)) :
    ∃ e, x.entered? = some e ∧
      Underway n (x.routines.routine (.program n)).lines [] e := by
  refine ⟨x.onRoutines (·.push (.program n)), ?_, poised, rfl, ⟨[], ?_, by simp⟩, ?_⟩
  · simp [entered?, empty, program]
  · change .program n :: x.routines.stack = _
    rw [empty, List.nil_append]
  · have start := rewound (.program n) (by simp [empty])
    exact congrArg Outline.atMargin (Routine.left_of_start start)

/-- As long as no header is typed on a frame, the pointer of every program that was ever loaded is
on a line that is not indented, or at the end. So a command that is not known is never one of the
program itself, and from an empty stack to the first start that finishes the program executes the
statements of the main program that were found in its script, each once and in order. -/
theorem programs_run_main_lines {strict : Bool} (seen : Sees HeaderOffStack { strict } history x) :
    (∀ n r, x.routines.known.find? (.program n) = some r →
      r.pointer = r.lines.length ∨
        ∃ (i : Nat) (line : String), r.pointer = i ∧ r.lines[i]? = some line ∧
          Text.isIndented line = false) ∧
    (∀ x', x.tick = (x', .failed (.fault .unknownCommand)) →
      ∃ name, x.routines.top? = some (.function name)) ∧
    ∀ id states x', x.routines.stack = [] → x.program? = some id → RunsOut x states x' →
      (∃ taken o, Outline.scan vocabulary taken 0 (x.routines.routine id).lines = (o, none)) ∧
      ∀ taken o, Outline.scan vocabulary taken 0 (x.routines.routine id).lines = (o, none) →
        states.filterMap (executedBy id) = o.main := by
  have poised : Poised x := seen.holds poised_invariant (poised_fresh strict)
  have rewound : Rewound x := seen.holds rewound_invariant (fun _ _ => rfl)
  refine ⟨?_, fun x' tick => poised.top_of_unknownCommand tick, ?_⟩
  · intro n r found
    have h := poised n
    rw [routine_of_find? found] at h
    cases ended : r.atEnd with
    | true => exact .inl (by simpa [Routine.atEnd] using ended)
    | false =>
      obtain ⟨line, -, -, -, pending, margin, -⟩ := h.pending ended
      have nonneg := h.inRange.1
      rw [Routine.statement?, if_pos nonneg] at pending
      exact .inr ⟨_, line, (Int.toNat_of_nonneg nonneg).symm, pending, margin⟩
  · intro id states x' empty program runs
    obtain ⟨n, rfl⟩ : ∃ n, id = .program n := by
      unfold program? at program
      split at program
      · cases program
      · exact ⟨_, (Option.some.inj program).symm⟩
    obtain ⟨e, entered, underway⟩ := underway_of_entered poised rewound empty program
    refine ⟨(poised n).scanned, fun taken o scanned => ?_⟩
    rw [Outline.main_of_scan isIndented_of_parse scanned]
    exact underway.runsOut entered runs

/-- Two functions, one of them without a body, between the statements of the main program. -/
def interleaved : List String :=
  ["set a 5", "def f", "    sub a 2", "    print a", "call f", "def g", "call f"]

/-- The last of the lines is a header that is typed while nothing runs. -/
def interleavedLines : List String :=
  ["set code", "\n".intercalate interleaved, "end set code", "def g"]

theorem interleaved_runs_main_lines :
    ∃ history x states x', Sees HeaderOffStack {} history x ∧ x.routines.stack = [] ∧
      RunsOut x states x' ∧ states.filterMap (executedBy (.program 0)) =
        ["set a 5", "def f", "call f", "def g", "call f"] := by
  obtain ⟨definite, fine⟩ :
      (∀ t ∈ session 10 interleavedLines {}, t.answer ≠ .error .unfinished) ∧
      ∀ t ∈ session 10 interleavedLines {}, t.before.HeaderOffStack t.text := by decide +kernel
  have rests : Rests HeaderOffStack {} _ _ := Rests.fresh.session definite fine
  obtain ⟨empty, program, lines, pauses, finishes⟩ :
      (afterSession 10 interleavedLines {}).routines.stack = [] ∧
      (afterSession 10 interleavedLines {}).program? = some (.program 0) ∧
      ((afterSession 10 interleavedLines {}).routines.routine (.program 0)).lines = interleaved ∧
      (((afterSession 10 interleavedLines {}).withBreakpoints [3]).start 20 .run).result =
        .ok .breakpoint ∧
      (((((afterSession 10 interleavedLines {}).withBreakpoints [3]).start 20
        .run).state.withBreakpoints []).start 20 .run).result = .ok .finished := by decide +kernel
  obtain ⟨outline, scanned, main⟩ : ∃ outline,
      Outline.scan vocabulary (fun _ => false) 0 interleaved = (outline, none) ∧
      outline.main = ["set a 5", "def f", "call f", "def g", "call f"] :=
    ⟨_, Prod.ext rfl (by decide +kernel), by decide +kernel⟩
  obtain ⟨paused, first⟩ := ends_iff_traverses.1 (ends_of_result 20 .breakpoint pauses)
  obtain ⟨finished, second⟩ := ends_iff_traverses.1 (ends_of_result 20 .finished finishes)
  have runs := RunsOut.again (r := ⟨.run, [3]⟩) first (by simp) (.finish (r := ⟨.run, []⟩) second)
  refine ⟨_, _, _, _, .between rests, empty, runs, ?_⟩
  obtain ⟨-, -, executes⟩ := programs_run_main_lines (.between rests)
  rw [(executes _ _ _ empty program runs).2 _ outline (by rw [lines]; exact scanned), main]

end Debugger

end LineLang
