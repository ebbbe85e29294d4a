import LineLang.Proofs.Debugger.Pointers
import LineLang.Proofs.Debugger.Rewinding
import LineLang.Proofs.Debugger.Schedule

/-!
# Complete runs can be repeated

A program that is run to its end from an empty stack without variables leaves the debugger as it was
before, however it was paused on the way (`complete_runs_repeat`): what it wrote and the reason of
the stop are all that is new. So the next run writes the same again.

The variables go with the last frame (`Cleared`), and every pointer is put back (`Rewound`). Nothing
else changes (`Undisturbed`), provided that no statement sets a breakpoint or is a bracket around
code: these last beyond the run.
-/

namespace LineLang

namespace Debugger

variable {d d' e s x y : Debugger} {t : Tick} {id : RoutineId} {mode : RunMode} {depth : Nat}
  {modes : List RunMode} {text : String} {o : Outcome} {history : List Debugger}

/-! ## What lasts beyond a run -/

/-- The part of a debugger that statements change only on purpose: breakpoints, the brackets around
code, and the programs loaded. -/
structure Setup where
  breakpoints : List Int
  phase : Phase
  requested : Bool
  strict : Bool
  loads : Nat

/-- The setup of a debugger. -/
def setup (d : Debugger) : Setup :=
  ⟨d.breakpoints, d.phase, d.requested, d.strict, d.loads⟩

/-- The line is a statement that changes the setup. -/
def changesSetup (line : String) : Bool :=
  match commandOf? line with
  | some .addBreak | some (.session .setCode) | some (.session .endSetCode) => true
  | _ => false

/-- A start on an empty stack can come to the routine: it is the program or a function. -/
def Startable (d : Debugger) (id : RoutineId) : Prop :=
  d.program? = some id ∨ ∃ name, id = .function name

/-- Neither the program of the next start nor a function has a line that changes the setup. -/
def KeepsSetup (d : Debugger) : Prop :=
  ∀ id, d.Startable id → ∀ line ∈ (d.routines.routine id).lines, changesSetup line = false

theorem Effect.setup_eq {reply : Reply Debugger Unit} (h : Effect d text reply)
    (keeps : changesSetup text = false) : reply.state.setup = d.setup := by
  unfold changesSetup at keeps
  cases h with
  | setCode command | endSetCode s closed command | addBreak args position read command =>
    rw [command] at keeps
    cases keeps
  | skipBody args parsed =>
    unfold Debugger.skipBody
    split <;> rfl
  | _ => rfl

theorem setup_leave (id : RoutineId) (d : Debugger) : (d.leave id).setup = d.setup := by
  unfold leave
  dsimp only
  split <;> rfl

/-- A micro-step changes the setup only by the statement that it executes. -/
theorem setup_tick (tick : d.tick = (d', t))
    (keeps : ∀ id ∈ d.routines.stack, ∀ line ∈ (d.routines.routine id).lines,
      changesSetup line = false) : d'.setup = d.setup := by
  have moves := tick ▸ tick_moves d
  cases moves with
  | idle | astray => rfl
  | leave id => exact setup_leave id d
  | execute id rest line stack inside pending | fail id rest line f stack inside pending =>
    have running : id ∈ d.routines.stack := by simp [stack]
    have kept := keeps id running line (Routine.mem_of_statement? pending)
    exact (execute_effect d line).setup_eq kept

/-! ## What a run leaves as it is -/

/-- Without a frame there are no variables. -/
def Cleared (d : Debugger) : Prop :=
  d.routines.stack = [] → d.vars = {}

theorem Cleared.tick (h : Cleared d) (tick : d.tick = (d', t)) : Cleared d' := by
  intro empty
  have moves := tick ▸ tick_moves d
  cases moves with
  | idle | astray => exact h empty
  | leave id rest stack =>
    have last : (d.onRoutines fun rs => (rs.modify id Routine.rewind).pop).routines.stack = [] := by
      rwa [stack_leave] at empty
    simp only [leave, last, List.isEmpty_nil, if_true]
  | execute id => exact absurd empty (stack_ne_nil_of_executed tick)
  | fail id rest line f stack =>
    have suffix := (execute_effect d line).stack_suffix
    rw [empty, stack] at suffix
    simp at suffix

/-- A run that was started in `s` on an empty stack has come to `x`. -/
structure Undisturbed (s x : Debugger) : Prop where
  frames : ∀ id ∈ x.routines.stack, s.Startable id
  keys : x.routines.known.keys = s.routines.known.keys
  pointers : ∀ id, ∃ pointer, x.routines.routine id = (s.routines.routine id).pointAt pointer
  rewound : Rewound x
  cleared : Cleared x
  setup : x.setup = s.setup

namespace Undisturbed

theorem congr (h : Undisturbed s x) (routines : y.routines = x.routines) (vars : y.vars = x.vars)
    (setup : y.setup = x.setup) : Undisturbed s y := by
  refine ⟨?_, ?_, ?_, h.rewound.congr routines, ?_, setup.trans h.setup⟩
  · rw [routines]
    exact h.frames
  · rw [routines]
    exact h.keys
  · rw [routines]
    exact h.pointers
  · unfold Cleared
    rw [routines, vars]
    exact h.cleared

/-- Frames come by calls, so they are those of functions. -/
theorem frames_tick (h : Undisturbed s x) (tick : x.tick = (y, t)) :
    ∀ id ∈ y.routines.stack, s.Startable id := by
  have shifts := tick_shifts tick
  generalize y.routines = rs at shifts
  cases shifts with
  | stay | advance | skip => exact h.frames
  | leave => exact fun id member => h.frames id (List.mem_of_mem_tail member)
  | @call _ _ _ name =>
    intro id member
    obtain rfl | member := List.mem_cons.1 member
    · exact .inr ⟨name, rfl⟩
    · exact h.frames id member

theorem tick (h : Undisturbed s x) (keeps : s.KeepsSetup) (tick : x.tick = (y, t)) :
    Undisturbed s y := by
  have shifts := tick_shifts tick
  refine ⟨h.frames_tick tick, shifts.keys.trans h.keys, fun id => ?_, h.rewound.tick tick,
    h.cleared.tick tick, ?_⟩
  · obtain ⟨before, same⟩ := h.pointers id
    obtain ⟨pointer, moved⟩ := shifts.exists_pointAt id
    exact ⟨pointer, by rw [moved, same]; rfl⟩
  · refine (setup_tick tick fun id running line member => ?_).trans h.setup
    obtain ⟨pointer, same⟩ := h.pointers id
    rw [same] at member
    exact keeps id (h.frames id running) line member

theorem entered (h : Undisturbed s x) (entered : x.entered? = some y) : Undisturbed s y := by
  obtain ⟨id, empty, program, rfl⟩ | ⟨-, rfl⟩ := entered_cases entered
  · have loads : x.loads = s.loads := congrArg Setup.loads h.setup
    refine { h with frames := ?_, rewound := h.rewound.push id, cleared := ?_ }
    · intro j member
      change j ∈ id :: x.routines.stack at member
      rw [empty, List.mem_singleton] at member
      subst member
      exact .inl (by rw [← program, program?, program?, loads])
    · intro nothing
      cases nothing
  · exact h

theorem ends (h : Undisturbed s x) (keeps : s.KeepsSetup) (ends : Ends mode x y o) :
    Undisturbed s y := by
  cases entered : x.entered? with
  | none =>
    rw [((ends_iff_of_entered_none entered).1 ends).1]
    exact h
  | some e =>
    obtain ⟨last, runs, rfl⟩ := (ends_iff_runs entered).1 ends
    have begun : Undisturbed s (e.begun mode) := (h.entered entered).congr rfl rfl rfl
    have reached : Undisturbed s last := runs.keeps begun fun kept tick => kept.tick keeps tick
    cases o with
    | error f => exact reached
    | ok reason => exact reached.congr rfl rfl rfl

/-- When the last frame is gone, all routines are as they were. -/
theorem routines_eq (h : Undisturbed s x) (distinct : s.routines.known.keys.Nodup)
    (rewound : Rewound s) (first : s.routines.stack = []) (last : x.routines.stack = []) :
    x.routines = s.routines := by
  have routine (id : RoutineId) : x.routines.routine id = s.routines.routine id := by
    obtain ⟨pointer, moved⟩ := h.pointers id
    have back : pointer = 0 := by
      have zero := h.rewound id (by simp [last])
      rwa [moved] at zero
    have start : (s.routines.routine id).pointer = 0 := rewound id (by simp [first])
    rw [moved, back, ← start]
    rfl
  have known : x.routines.known = s.routines.known := by
    refine Table.ext_find? distinct h.keys fun id => ?_
    by_cases present : id ∈ s.routines.known.keys
    · obtain ⟨r, found⟩ := (Table.mem_keys_iff_find? _ _).1 present
      obtain ⟨r', found'⟩ := (Table.mem_keys_iff_find? _ _).1 (h.keys ▸ present)
      have same := routine id
      rw [routine_of_find? found, routine_of_find? found'] at same
      rw [found, found', same]
    · have absent : id ∉ x.routines.known.keys := by rwa [h.keys]
      rw [(Table.find?_eq_none_iff _ _).2 present, (Table.find?_eq_none_iff _ _).2 absent]
  calc x.routines = ⟨x.routines.known, x.routines.stack⟩ := rfl
    _ = ⟨s.routines.known, s.routines.stack⟩ := by rw [known, last, first]
    _ = s.routines := rfl

end Undisturbed

theorem undisturbed_refl (rewound : Rewound s) (empty : s.routines.stack = [])
    (unset : s.vars = {}) : Undisturbed s s :=
  ⟨by simp [empty], rfl, fun id => ⟨_, rfl⟩, rewound, fun _ => unset, rfl⟩

/-- Debuggers that agree in all parts differ in what was written and in the reason of the stop. -/
theorem eq_of_parts (vars : d.vars = s.vars) (routines : d.routines = s.routines)
    (setup : d.setup = s.setup) :
    d = { s with lastStop := d.lastStop, output := d.output, log := d.log } := by
  obtain ⟨⟨⟨v, rs⟩, phase, requested, strict, output, log⟩, breakpoints, loads, stop⟩ := d
  obtain ⟨⟨⟨v', rs'⟩, phase', requested', strict', output', log'⟩, breakpoints', loads', stop'⟩ := s
  cases vars
  cases routines
  cases setup
  rfl

/-! ## Runs to the end -/

/-- Starts in the modes, made one after the other, lead from the first debugger to the second: each
of them pauses, up to the last, which finishes. -/
inductive Finishes : Debugger → List RunMode → Debugger → Prop
  | finish {d d' : Debugger} {mode : RunMode} (ends : Ends mode d d' (.ok .finished)) :
      Finishes d [mode] d'
  | pause {d d' final : Debugger} {mode : RunMode} {reason : StopReason} {modes : List RunMode}
      (ends : Ends mode d d' (.ok reason)) (paused : reason ≠ .finished)
      (rest : Finishes d' modes final) : Finishes d (mode :: modes) final

theorem breakpoints_of_entered (entered : d.entered? = some e) :
    e.breakpoints = d.breakpoints := by
  obtain ⟨id, -, -, rfl⟩ | ⟨-, rfl⟩ := entered_cases entered <;> rfl

theorem entered_alike (alike : Alike d e) (entered : d.entered? = some x) :
    ∃ y, e.entered? = some y ∧ Alike x y := by
  obtain ⟨id, empty, program, rfl⟩ | ⟨frames, rfl⟩ := entered_cases entered
  · refine ⟨e.onRoutines (·.push id), ?_, (Abreast.onRoutines alike (·.push id)).alike⟩
    have program' : e.program? = some id := by rw [← program, program?, program?, alike.loads]
    simp [entered?, ← alike.routines, empty, program']
  · exact ⟨e, entered?_of_stack_ne_nil (alike.routines ▸ frames), alike⟩

/-- A start that ends without a failure has put a frame on the stack or found one. -/
theorem Ends.exists_entered {reason : StopReason} (h : Ends mode d d' (.ok reason)) :
    ∃ e, d.entered? = some e := by
  have h : Ends mode (d.withBreakpoints d.breakpoints) d' (.ok reason) := h
  exact h.entered

/-- A start does the same to debuggers that are alike and have the same breakpoints. -/
theorem Ends.alike {reason : StopReason} (h : Ends mode d d' (.ok reason)) (alike : Alike d e)
    (same : d.breakpoints = e.breakpoints) :
    ∃ e', Ends mode e e' (.ok reason) ∧ Alike d' e' ∧ d'.breakpoints = e'.breakpoints := by
  obtain ⟨x, entered⟩ := h.exists_entered
  obtain ⟨y, entered', alike'⟩ := entered_alike alike entered
  obtain ⟨last, runs, rfl⟩ := (ends_iff_runs entered).1 h
  have same' : (x.begun mode).breakpoints = (y.begun mode).breakpoints := by
    change x.breakpoints = y.breakpoints
    rw [breakpoints_of_entered entered, breakpoints_of_entered entered', same]
  have begun : Alike (x.begun mode) (y.begun mode) :=
    ((begun_alike mode x).trans alike').trans (begun_alike mode y).symm
  obtain ⟨last', runs', abreast⟩ := runs.abreast begun same'
  refine ⟨last'.stopped reason, (ends_iff_runs entered').2 ⟨last', ?_, rfl⟩, ?_, ?_⟩
  · rwa [← alike'.routines]
  · exact ((stopped_alike last reason).trans abreast.alike).trans (stopped_alike last' reason).symm
  · exact abreast.breakpoints same'

namespace Finishes

/-- What is run to the end once can be run to the end again, with the same pauses. -/
theorem alike (h : Finishes d modes d') (alike : Alike d e)
    (same : d.breakpoints = e.breakpoints) : ∃ e', Finishes e modes e' := by
  induction h generalizing e with
  | finish ends =>
    obtain ⟨e', ends', -, -⟩ := ends.alike alike same
    exact ⟨e', .finish ends'⟩
  | pause ends paused _ ih =>
    obtain ⟨next, ends', alike', same'⟩ := ends.alike alike same
    obtain ⟨e', rest⟩ := ih alike' same'
    exact ⟨e', .pause ends' paused rest⟩

theorem undisturbed (h : Finishes x modes d) (first : Undisturbed s x) (keeps : s.KeepsSetup) :
    Undisturbed s d := by
  induction h with
  | finish ends => exact first.ends keeps ends
  | pause ends _ _ ih => exact ih (first.ends keeps ends)

theorem exists_completes (h : Finishes d modes d') :
    ∃ starts pauses, Completes d starts pauses d' := by
  induction h with
  | @finish d d' mode ends => exact ⟨[⟨mode, d.breakpoints⟩], [], .finish ends⟩
  | @pause d d' final mode reason modes ends paused _ ih =>
    obtain ⟨starts, pauses, completes⟩ := ih
    exact ⟨⟨mode, d.breakpoints⟩ :: starts, d' :: pauses, .pause ends paused completes⟩

/-- A run to the end follows the course of micro-steps up to the empty stack. -/
theorem exists_advances (h : Finishes d modes d') :
    ∃ e n last, d.entered? = some e ∧ Advances n e last ∧ last.routines.stack = [] ∧
      Alike d' last ∧ d'.output = last.output := by
  obtain ⟨starts, pauses, completes⟩ := h.exists_completes
  obtain ⟨e, entered⟩ := completes.entered
  obtain ⟨-, n, last, advances, empty, alike, output⟩ := completes.onCourse entered (.refl e) rfl
  exact ⟨e, n, last, entered, advances, empty, alike, output⟩

theorem stack_eq_nil (h : Finishes d modes d') : d'.routines.stack = [] := by
  obtain ⟨e, n, last, -, -, empty, alike, -⟩ := h.exists_advances
  rw [alike.routines, empty]

theorem lastStop_eq (h : Finishes d modes d') : d'.lastStop = some .finished := by
  induction h with
  | finish ends =>
    obtain ⟨e, entered⟩ := ends.exists_entered
    obtain ⟨last, -, rfl⟩ := (ends_iff_runs entered).1 ends
    rfl
  | pause _ _ _ ih => exact ih

/-- From debuggers that are alike, all runs to the end write the same. -/
theorem exists_written {modes' : List RunMode} {e' : Debugger} (h : Finishes d modes d')
    (h' : Finishes e modes' e') (alike : Alike d e) :
    ∃ lines, d'.output.toList = d.output.toList ++ lines ∧
      e'.output.toList = e.output.toList ++ lines := by
  obtain ⟨x, n, last, entered, advances, empty, -, output⟩ := h.exists_advances
  obtain ⟨y, n', last', entered', advances', empty', -, output'⟩ := h'.exists_advances
  obtain ⟨z, entered'', both⟩ := entered_alike alike entered
  cases entered'.symm.trans entered''
  obtain ⟨final, course, abreast⟩ := advances.abreast both
  obtain rfl : last' = final :=
    advances'.eq_of_stack_nil course empty' (abreast.alike.routines ▸ empty)
  obtain ⟨lines, written, written'⟩ := abreast.written
  refine ⟨lines, ?_, ?_⟩
  · rw [output, written, Record.toList_addAll, output_of_entered entered]
  · rw [output', written', Record.toList_addAll, output_of_entered entered']

end Finishes

/-! ## Repetition -/

/-- Let neither the program nor a function have a statement that changes the setup. Then starts of
any modes, with any breakpoints, that run the program to its end from an empty stack without
variables bring the debugger back to where it was, up to the lines written, the log and the reason
of the stop. The same starts can be made again, and whatever starts run the program to its end the
next time, they write the same lines. -/
theorem complete_runs_repeat {strict : Bool} (seen : Sees (fun _ _ => True) { strict } history s)
    (empty : s.routines.stack = []) (unset : s.vars = {}) (keeps : s.KeepsSetup)
    (breakpoints : List Int) (finishes : Finishes (s.withBreakpoints breakpoints) modes d) :
    d = { s with
      breakpoints, lastStop := some .finished, output := d.output, log := d.log } ∧
    (∃ d', Finishes d modes d') ∧
    ∃ lines, d.output.toList = s.output.toList ++ lines ∧
      ∀ breakpoints' modes' d', Finishes (d.withBreakpoints breakpoints') modes' d' →
        d'.output.toList = d.output.toList ++ lines := by
  have rewound : Rewound s := seen.holds rewound_invariant fun _ _ => rfl
  have distinct : s.routines.known.keys.Nodup :=
    seen.holds distinct_invariant (by exact List.nodup_nil)
  -- The breakpoints are no part of what the invariants speak of.
  have undisturbed : Undisturbed (s.withBreakpoints breakpoints) d :=
    finishes.undisturbed (undisturbed_refl (rewound.congr rfl) empty unset) keeps
  have gone := finishes.stack_eq_nil
  have routines : d.routines = s.routines :=
    undisturbed.routines_eq distinct (rewound.congr rfl) empty gone
  have vars : d.vars = s.vars := (undisturbed.cleared gone).trans unset.symm
  have back := eq_of_parts (s := s.withBreakpoints breakpoints) vars routines undisturbed.setup
  rw [finishes.lastStop_eq] at back
  have alike : Alike (s.withBreakpoints breakpoints) d := by
    rw [back]
    exact ⟨rfl, rfl, rfl, rfl, rfl, rfl⟩
  obtain ⟨d', again⟩ := finishes.alike alike (congrArg Debugger.breakpoints back).symm
  obtain ⟨lines, written, -⟩ := finishes.exists_written again alike
  refine ⟨back, ⟨d', again⟩, lines, written, fun breakpoints' modes' d'' other => ?_⟩
  obtain ⟨lines', written', repeated⟩ :=
    finishes.exists_written other (alike.trans (withBreakpoints_alike d breakpoints').symm)
  rw [written] at written'
  rw [List.append_cancel_left written']
  exact repeated

theorem keepsSetup_of_entries
    (keeps : ∀ e ∈ d.routines.known.entries, ∀ line ∈ e.2.lines, changesSetup line = false) :
    d.KeepsSetup := by
  intro id _ line member
  unfold Routines.routine at member
  cases found : d.routines.known.find? id with
  | none =>
    rw [found] at member
    cases member
  | some r =>
    rw [found] at member
    exact keeps _ (Table.mem_entries_of_find? found) line member

/-- Whether the starts pause up to the last, which finishes, each within `fuel` micro-steps. -/
def finishesWithin (fuel : Nat) : List RunMode → Debugger → Bool
  | [], _ => false
  | mode :: modes, d =>
    match (d.start fuel mode).result with
    | .ok .finished => modes.isEmpty
    | .ok _ => finishesWithin fuel modes (d.start fuel mode).state
    | .error _ => false

/-- The debugger after several starts. -/
def afterStarts (fuel : Nat) (modes : List RunMode) (d : Debugger) : Debugger :=
  modes.foldl (fun d mode => (d.start fuel mode).state) d

theorem finishes_of_finishesWithin {fuel : Nat} (h : finishesWithin fuel modes d = true) :
    Finishes d modes (afterStarts fuel modes d) := by
  induction modes generalizing d with
  | nil => cases h
  | cons mode modes ih =>
    unfold finishesWithin at h
    split at h
    · next finished =>
      obtain rfl := List.isEmpty_iff.1 h
      exact .finish (ends_of_result fuel .finished finished)
    · next reason paused ended => exact .pause (ends_of_result fuel reason ended) paused (ih h)
    · cases h

/-- A program that calls a function twice is loaded and run. -/
def rehearsalLines : List String :=
  ["set code",
    "\n".intercalate ["def f", "    sub a 2", "    print a", "set a 9", "call f", "call f"],
    "end set code", "run"]

/-- The debugger after a first run. -/
def rehearsed : Debugger :=
  afterSession 20 rehearsalLines {}

/-- The second run pauses within both calls. The third can pause at the same places, and writes the
same in any case. -/
theorem rehearsed_repeats :
    (∃ history, Sees (fun _ _ => True) {} history rehearsed) ∧ rehearsed.routines.stack = [] ∧
      rehearsed.vars = {} ∧ rehearsed.KeepsSetup ∧
      ∃ d, Finishes (rehearsed.withBreakpoints [2]) [.run, .stepOver, .run, .run] d ∧
        d = { rehearsed with
          breakpoints := [2], lastStop := some .finished, output := d.output, log := d.log } ∧
        (∃ d', Finishes d [.run, .stepOver, .run, .run] d') ∧
        ∀ breakpoints' modes' d', Finishes (d.withBreakpoints breakpoints') modes' d' →
          d'.output.toList = ["7", "5", "7", "5", "7", "5"] := by
  obtain ⟨definite, empty, unset, plain, written⟩ :
      (∀ t ∈ session 20 rehearsalLines {}, t.answer ≠ .error .unfinished) ∧
      rehearsed.routines.stack = [] ∧ rehearsed.vars = {} ∧
      (∀ e ∈ rehearsed.routines.known.entries, ∀ line ∈ e.2.lines, changesSetup line = false) ∧
      rehearsed.output.toList = ["7", "5"] := by decide +kernel
  obtain ⟨within, second⟩ :
      finishesWithin 20 [.run, .stepOver, .run, .run] (rehearsed.withBreakpoints [2]) = true ∧
      (afterStarts 20 [.run, .stepOver, .run, .run]
        (rehearsed.withBreakpoints [2])).output.toList = ["7", "5", "7", "5"] := by decide +kernel
  have seen : Sees (fun _ _ => True) {} _ rehearsed :=
    .between (Rests.fresh.session definite fun _ _ => trivial)
  have finishes := finishes_of_finishesWithin within
  have keeps := keepsSetup_of_entries plain
  obtain ⟨back, again, lines, first, next⟩ :=
    complete_runs_repeat seen empty unset keeps [2] finishes
  refine ⟨⟨_, seen⟩, empty, unset, keeps, _, finishes, back, again, fun _ _ _ other => ?_⟩
  rw [second, written] at first
  have twice : ["7", "5"] ++ ["7", "5"] = ["7", "5"] ++ lines := first
  have same : ["7", "5"] = lines := List.append_cancel_left twice
  rw [next _ _ _ other, second, ← same]
  rfl

end Debugger

end LineLang
