import LineLang.Proofs.Debugger.Loading
import LineLang.Proofs.Debugger.Meaning
import LineLang.Proofs.Immediate.Meaning

/-!
# The two interpreters agree

A script that the immediate interpreter loads without a failure is read by the debugger without a
fault: the functions that were collected line by line are those that one pass over the script finds
(`Collects`). A run of the program then does what the script means, and so it leaves the same
variables and writes the same lines (`run_agrees_with_immediate_load`).
-/

namespace LineLang

variable {i i' : Immediate} {o : Outline} {line : String} {lines : List String}

/-! ## Functions found in one pass -/

/-- The functions of the outline are those that were defined, and the open one is that whose body
is being collected. -/
structure Collects (o : Outline) (i : Immediate) : Prop where
  definition : ∀ name f, i.definition name = some f ↔ f ∈ o.functions ∧ f.name = name
  opened : i.opened = o.current.map Routine.name

namespace Collects

/-- A line of a body goes into the function that is open on both sides. -/
theorem collect {name body : String} (h : Collects o i)
    (distinct : (o.functions.map Routine.name).Nodup) (open_ : i.opened = some name) :
    ∃ r, o.current = some r ∧ Collects { o with current := some (r.append body) }
      (i.onRoutines (·.modify (.function name) (·.append body))) := by
  obtain ⟨r, current, rfl⟩ : ∃ r, o.current = some r ∧ r.name = name :=
    Option.map_eq_some_iff.1 (h.opened.symm.trans open_)
  have functions_eq : o.functions = o.closed ++ [r] := by simp [Outline.functions, current]
  have defined : i.definition r.name = some r :=
    (h.definition _ _).2 ⟨by simp [functions_eq], rfl⟩
  have fresh : ∀ f ∈ o.closed, f.name ≠ r.name := by
    rw [functions_eq, List.map_append, List.nodup_append] at distinct
    exact fun f closed => distinct.2.2 _ (List.mem_map_of_mem closed) _ (by simp)
  refine ⟨r, current, fun name f => ?_, open_⟩
  have functions_eq' : Outline.functions { o with current := some (r.append body) } =
      o.closed ++ [r.append body] := rfl
  have same : (r.append body).name = r.name := rfl
  rw [Immediate.definition_append, functions_eq', List.mem_append, List.mem_singleton]
  by_cases this : name = r.name
  · subst this
    rw [if_pos rfl, defined, Option.map_some, Option.some.injEq]
    constructor
    · rintro rfl
      exact ⟨.inr rfl, rfl⟩
    · rintro ⟨closed | rfl, names⟩
      · exact absurd names (fresh f closed)
      · rfl
  · rw [if_neg this, h.definition, functions_eq, List.mem_append, List.mem_singleton]
    grind

/-- A statement that is no header closes the function that was open. -/
theorem perform (h : Collects o i) (kept : Immediate.Keeps { i with opened := none } i')
    (main : List String) : Collects { closed := o.functions, main } i' := by
  refine ⟨fun name f => ?_, kept.opened⟩
  have functions_eq : Outline.functions { closed := o.functions, main } = o.functions := by
    simp [Outline.functions]
  rw [functions_eq, kept.definition]
  exact h.definition name f

/-- A header opens a function without a body. -/
theorem define {name : String} {r : Routine} (h : Collects o i) (main : List String)
    (named : r.name = name) (start : r.pointer = 0) (new : i.definition name = none)
    (added : ∀ other, i'.definition other =
      if other = name then some r.rewind else i.definition other)
    (opened : i'.opened = some name) :
    Collects { closed := o.functions, current := some r, main } i' := by
  refine ⟨fun other f => ?_, by rw [opened, Option.map_some, named]⟩
  have functions_eq : Outline.functions { closed := o.functions, current := some r, main } =
      o.functions ++ [r] := rfl
  have rewound : r.rewind = r := by rw [Routine.rewind, Routine.pointAt, ← start]
  have free : ∀ f ∈ o.functions, f.name ≠ name := by
    intro f member same
    rw [(h.definition name f).2 ⟨member, same⟩] at new
    cases new
  rw [added, functions_eq, List.mem_append, List.mem_singleton, rewound]
  split
  · grind
  · rw [h.definition]
    grind

/-- A line of the main program is read in the pass as it was taken. -/
theorem readLine (h : Collects o i) (distinct : (o.functions.map Routine.name).Nodup)
    (takes : Immediate.Takes i line i') :
    ∃ o', o.readLine Debugger.vocabulary (fun _ => false) i.position line = .ok o' ∧
      Collects o' i' := by
  cases takes with
  | collect name body open_ split =>
    obtain ⟨r, current, collects⟩ := h.collect distinct open_
    refine ⟨_, ?_, collects⟩
    rw [Outline.readLine, current, Text.dedent?_eq_some_iff.2 split]
  | perform i' unindented readable kept performed =>
    obtain ⟨statement, parsed, -⟩ := Vocabulary.reads_iff.1 readable
    have other : statement.command ≠ Outline.header := by
      simpa [Vocabulary.isHeader, parsed] using isHeader_of_reads_bodyCommands readable
    refine ⟨_, ?_, h.perform kept (o.main ++ [line])⟩
    rw [Outline.readLine_of_unindented _ _ unindented, Outline.readTopLevel, parsed]
    exact if_pos other
  | define name args unindented parsed named new =>
    have free : o.functions.any (·.name = name) = false := by
      rw [List.any_eq_false]
      intro f member same
      rw [(h.definition name f).2 ⟨member, by simpa using same⟩] at new
      cases new
    refine ⟨_, ?_, h.define (o.main ++ [line]) rfl rfl new
      (Workspace.definition_addFunction _ { name, offset := i.position + 1 }) rfl⟩
    rw [Outline.readLine_of_unindented _ _ unindented, Outline.readTopLevel, parsed]
    simp only [named, free, Bool.or_self, Bool.false_eq_true, if_false, ne_eq, not_true_eq_false]

/-- One pass over the lines finds what was collected from them. -/
theorem readLines {before : List String} (h : Collects o i)
    (partition : Outline.Partition Debugger.vocabulary (fun _ => false) 0 before o)
    (place : i.position + 1 = before.length) (outside : i.routines.stack = [])
    (readable : ∀ line ∈ lines, Text.isIndented line = false →
      Debugger.vocabulary.reads mainCommands line = true)
    (plain : i'.SettledPlain) (done : Immediate.statements lines i = ⟨i', .ok ()⟩) :
    ∃ o', Outline.readLines Debugger.vocabulary (fun _ => false) before.length lines o =
        (o', none) ∧
      Collects o' i' := by
  induction lines generalizing i o before with
  | nil =>
    cases done
    exact ⟨o, rfl, h⟩
  | cons line lines ih =>
    obtain ⟨j, takes, later, empty, -⟩ := Immediate.exists_takes outside readable plain done
    have collects : Collects o i.count := ⟨h.definition, h.opened⟩
    obtain ⟨next, read, collects'⟩ := collects.readLine partition.distinct takes
    have here : i.count.position = 0 + before.length := by
      rw [Int.zero_add]
      exact place
    have place' : j.position + 1 = (before ++ [line]).length := by
      rw [takes.position_eq, here, List.length_append, List.length_singleton]
      omega
    obtain ⟨o', reads, collects''⟩ := ih collects' (partition.readLine (here ▸ read)) place' empty
      (fun line member => readable line (List.mem_cons_of_mem _ member)) later
    refine ⟨o', ?_, collects''⟩
    rw [here, Int.zero_add] at read
    rw [Outline.readLines, read]
    rw [List.length_append, List.length_singleton] at reads
    exact reads

end Collects

/-! ## Loading -/

theorem Session.enter_store (s : Session) (phase : Phase) : (s.enter phase).store = s.store := by
  unfold Session.enter
  split <;> rfl

theorem Workspace.mem_functions {w : Workspace} {name : String} {r : Routine}
    (found : w.routines.known.find? (.function name) = some r) : r ∈ w.functions :=
  List.mem_filterMap.2 ⟨_, Table.mem_entries_of_find? found, rfl⟩

namespace Workspace

/-- Functions leave entries under other names alone. -/
theorem find?_addFunctions_of_ne {id : RoutineId} (w : Workspace) (fs : List Routine)
    (other : ∀ f ∈ fs, id ≠ .function f.name) :
    (fs.foldl .addFunction w).routines.known.find? id = w.routines.known.find? id := by
  induction fs generalizing w with
  | nil => rfl
  | cons f fs ih =>
    rw [List.foldl_cons, ih _ fun g member => other g (List.mem_cons_of_mem _ member)]
    simp only [addFunction, Routines.register, Table.find?_insert,
      if_neg (other f List.mem_cons_self)]

/-- Functions with names of their own are found after all of them have been added. -/
theorem find?_addFunctions (w : Workspace) {fs : List Routine}
    (distinct : (fs.map Routine.name).Nodup) {f : Routine} (member : f ∈ fs) :
    (fs.foldl .addFunction w).routines.known.find? (.function f.name) = some f := by
  induction fs generalizing w with
  | nil => cases member
  | cons g fs ih =>
    rw [List.map_cons, List.nodup_cons] at distinct
    rw [List.foldl_cons]
    obtain rfl | later := List.mem_cons.1 member
    · rw [find?_addFunctions_of_ne]
      · simp [addFunction, Routines.register, Table.find?_insert]
      · intro other found same
        exact distinct.1 (List.mem_map.2 ⟨other, found, (RoutineId.function.inj same).symm⟩)
    · exact ih _ distinct.2 later

theorem stack_addFunctions (w : Workspace) (fs : List Routine) :
    (fs.foldl .addFunction w).routines.stack = w.routines.stack := by
  induction fs generalizing w with
  | nil => rfl
  | cons f fs ih => exact ih _

end Workspace

namespace Debugger

theorem store_closeCode (d : Debugger) : d.closeCode.store = d.store :=
  Session.enter_store _ _

/-- A fresh debugger that reads a script without a fault has the functions of its outline and the
script as its program. -/
theorem exists_load (strict : Bool) (payload : String)
    (read : Outline.scan vocabulary (fun _ => false) 0 (Text.scriptLines payload) = (o, none))
    (distinct : (o.functions.map Routine.name).Nodup) :
    ∃ d, ({ strict := strict } : Debugger).load payload = .ok d () ∧ d.store = ⟨{}, {}⟩ ∧
      d.breakpoints = [] ∧ d.routines.stack = [] ∧ d.loads = 1 ∧
      d.routines.known.find? (.program 0) =
        some { name := programName, lines := Text.scriptLines payload } ∧
      ∀ f ∈ o.functions, d.routines.known.find? (.function f.name) = some f := by
  refine ⟨_, load_of_scan read, ?_, rfl, ?_, rfl, ?_, fun f member => ?_⟩
  · rw [store_closeCode]
    exact congrArg (Store.mk · {}) (Workspace.vars_addFunctions _ _)
  · rw [routines_closeCode]
    exact Workspace.stack_addFunctions _ _
  · rw [routines_closeCode]
    exact (Table.find?_insert _ _ _ _).trans (if_pos rfl)
  · rw [routines_closeCode]
    refine (Table.find?_insert _ _ _ _).trans ((if_neg (by simp)).trans ?_)
    exact Workspace.find?_addFunctions _ distinct member

/-- A program that winds up is taken from the stack, and the run is finished. -/
theorem WindsUp.ends {d e : Debugger} {id : RoutineId} {r : Routine} {s : Store}
    (h : WindsUp id r (e.begun .run) s) (entered : d.entered? = some e)
    (stack : e.routines.stack = [id]) (none : e.breakpoints = []) :
    ∃ n last, Advances n (e.begun .run) last ∧ last.routines.stack = [id] ∧ last.store = s ∧
      last.tick = (last.leave id, .returned) ∧
      Ends .run d ((last.leave id).stopped .finished) (.ok .finished) := by
  obtain ⟨n, last, end_, advances, steady, found, ended, -, store⟩ := h
  have stack' : last.routines.stack = [id] := steady.stack.trans stack
  have tick := tick_of_atEnd (by rw [Routines.top?, stack']; rfl) found ended
  have empty : (last.leave id).routines.stack = [] := by
    simp [Debugger.leave, onRoutines, Routines.pop, Routines.modify, stack']
  refine ⟨n, last, advances, stack', store, tick, ?_⟩
  rw [ends_iff_runs entered]
  refine ⟨last.leave id, ?_, rfl⟩
  have idle := tick_of_stack_nil empty
  exact (Runs.of_advances advances (steady.breakpoints.trans none)
    (.more tick trivial (by simp [stop?]) (.stop idle rfl))).1

/-- The first program of a debugger is run as its lines are meant. -/
theorem exists_ends_of_performs {d : Debugger} {known : String → Option Routine} {s : Store}
    (performs : Performs known [] 0 lines d.store s) (none : d.breakpoints = [])
    (stack : d.routines.stack = []) (loads : d.loads = 1)
    (program : d.routines.known.find? (.program 0) = some { name := programName, lines })
    (functions : ∀ name f, known name = some f →
      f.pointer = 0 ∧ d.routines.known.find? (.function name) = some f) :
    ∃ e n last, d.entered? = some e ∧ Advances n (e.begun .run) last ∧
      last.routines.stack = [.program 0] ∧ last.store = s ∧
      last.tick = (last.leave (.program 0), .returned) ∧
      Ends .run d ((last.leave (.program 0)).stopped .finished) (.ok .finished) := by
  have entered : d.entered? = some (d.onRoutines (·.push (.program 0))) := by
    simp [entered?, stack, program?, loads]
  have stack' : (d.onRoutines (·.push (.program 0))).routines.stack = [.program 0] :=
    congrArg (_ :: ·) stack
  have top : ((d.onRoutines (·.push (.program 0))).begun .run).routines.top? =
      some (.program 0) := rfl
  have nothing : ((d.onRoutines (·.push (.program 0))).begun .run).runningNames = [] := by
    rw [Workspace.runningNames, (begun_alike .run _).routines, stack']
    rfl
  have knows : Knows known ((d.onRoutines (·.push (.program 0))).begun .run) := fun name f found =>
    ⟨(functions name f found).1, fun _ => (functions name f found).2⟩
  have wound := windsUp_of_performs performs top nothing program (.ofStart rfl) knows rfl
  obtain ⟨n, last, course⟩ := wound.ends entered stack' none
  exact ⟨_, n, last, entered, course⟩

end Debugger

namespace Immediate

/-- A script that is loaded without a failure has been carried out line by line. -/
theorem exists_of_load {fresh : Immediate} {payload : String}
    (loaded : fresh.load payload = ⟨i, .ok ()⟩) :
    ∃ j, statements (Text.scriptLines payload) fresh = ⟨j, .ok ()⟩ ∧
      i.routines = j.routines ∧ i.store = j.store := by
  rcases ran : statements (Text.scriptLines payload) fresh with ⟨j, result⟩
  rw [load, ran] at loaded
  cases loaded
  exact ⟨j, rfl, Session.enter_routines _ _, Session.enter_store _ _⟩

end Immediate

/-- A script that the immediate interpreter loads without a failure is loaded by a fresh debugger,
which runs it to the end, writes the same lines and, before the program leaves the stack, has the
same variables with the same positions of their last change. -/
theorem run_agrees_with_immediate_load (strict strict' : Bool) (payload : String) (i : Immediate)
    (loaded : ({ strict := strict } : Immediate).load payload = ⟨i, .ok ()⟩)
    (main : ∀ line ∈ Text.scriptLines payload, Text.isIndented line = false →
      Debugger.vocabulary.reads mainCommands line = true)
    (bodies : ∀ f ∈ i.functions, ∀ line ∈ f.lines,
      Debugger.vocabulary.reads bodyCommands line = true) :
    ∃ d e n last final,
      ({ strict := strict' } : Debugger).load payload = ⟨d, .ok ()⟩ ∧ d.breakpoints = [] ∧
      d.output.toList = [] ∧ d.entered? = some e ∧
      Debugger.Advances n (e.begun .run) last ∧ last.routines.stack = [.program 0] ∧
      last.vars = i.vars ∧ last.tick = (last.leave (.program 0), .returned) ∧
      final = (last.leave (.program 0)).stopped .finished ∧
      Debugger.Ends .run d final (.ok .finished) ∧ final.output.toList = i.output.toList := by
  obtain ⟨j, ran, routines, store⟩ := Immediate.exists_of_load loaded
  have plain : j.SettledPlain := by
    intro name f settled
    obtain ⟨r, found, rfl⟩ := Option.map_eq_some_iff.1 (Immediate.definition_of_settled settled)
    exact bodies r (Workspace.mem_functions (routines ▸ found))
  -- One pass over the script finds the functions that were collected.
  have collects : Collects {} ({ strict := strict } : Immediate) :=
    ⟨fun name f => by simp [Workspace.definition, Table.find?, Outline.functions], rfl⟩
  obtain ⟨o, read, collects⟩ :=
    collects.readLines (Outline.partition_nil _ _ 0) rfl rfl main plain ran
  have partition := (Outline.partition_nil Debugger.vocabulary (fun _ => false) 0).readLines read
  obtain ⟨d, load, fresh, breakpoints, stack, loads, program, functions⟩ :=
    Debugger.exists_load strict' payload read partition.distinct
  -- What the debugger does with the script is what the script means.
  have performs : Performs j.definition [] 0 (Text.scriptLines payload) d.store j.store := by
    rw [fresh]
    exact Immediate.statements_performs rfl main plain ran
  have known : ∀ name f, j.definition name = some f →
      f.pointer = 0 ∧ d.routines.known.find? (.function name) = some f := by
    intro name f found
    obtain ⟨member, rfl⟩ := (collects.definition name f).1 found
    refine ⟨?_, functions f member⟩
    obtain ⟨r, -, rfl⟩ := Option.map_eq_some_iff.1 found
    rfl
  obtain ⟨e, n, last, entered, advances, stack', store', tick, ends⟩ :=
    Debugger.exists_ends_of_performs performs breakpoints stack loads program known
  have same : last.store = i.store := store'.trans store.symm
  have nothing : d.output.toList = [] := by
    rw [show d.output = {} from congrArg Store.output fresh]
    rfl
  have written : ((last.leave (.program 0)).stopped .finished).output = last.output := by
    simp only [Debugger.stopped, Debugger.onSession, Session.note, Debugger.leave]
    split <;> rfl
  refine ⟨d, e, n, last, _, load, breakpoints, nothing, entered, advances, stack',
    congrArg Store.vars same, tick, rfl, ends, ?_⟩
  rw [written, show last.output = i.output from congrArg Store.output same]

/-- A function that calls another one, which is defined further down. -/
def nestedCalls : String :=
  "def f\n    call g\n    print a\ndef g\n    sub a 1\nset a 5\ncall f\nprint mem"

theorem run_agrees_on_nestedCalls :
    ∃ d final, ({ strict := true } : Debugger).load nestedCalls = ⟨d, .ok ()⟩ ∧
      Debugger.Ends .run d final (.ok .finished) ∧ final.output.toList = ["4", "a 4 4"] := by
  have loaded : ({ strict := false } : Immediate).load nestedCalls = ⟨_, .ok ()⟩ :=
    congrArg (Reply.mk _) (by decide +kernel)
  obtain ⟨d, -, -, -, final, load, -, -, -, -, -, -, -, -, ends, output⟩ :=
    run_agrees_with_immediate_load false true nestedCalls _ loaded (by decide +kernel)
      (by decide +kernel)
  exact ⟨d, final, load, ends, output.trans (by decide +kernel)⟩

end LineLang
