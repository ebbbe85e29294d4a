import LineLang.Proofs.Debugger.Loading
import LineLang.Proofs.Outline.Partition

/-!
# Loading changes nothing but the code

Loading a script adds functions and, if the script has no fault, a program. All else is as before
(`Retains`), whether or not a program is paused. A script with a fault has been read up to the line
that is faulty: the functions above it are complete, and nothing is left of the line itself
(`load_changes_only_code`).
-/

namespace LineLang

/-! ## Scripts with a fault -/

/-- A script is read to its end, or up to a line with a fault. -/
theorem Outline.readLines_cases (v : Vocabulary) (taken : String → Bool) (k : Int)
    (lines : List String) (o : Outline) :
    (∃ o', readLines v taken k lines o = (o', none)) ∨
    ∃ before line rest o' f, lines = before ++ line :: rest ∧
      readLines v taken k before o = (o', none) ∧
      o'.readLine v taken (k + before.length) line = .error f ∧
      readLines v taken k lines o = (o', some f) := by
  induction lines generalizing k o with
  | nil => exact .inl ⟨o, rfl⟩
  | cons first lines ih =>
    cases read : o.readLine v taken k first with
    | error f =>
      refine .inr ⟨[], first, lines, o, f, rfl, rfl, ?_, by rw [readLines, read]⟩
      rwa [List.length_nil, Int.natCast_zero, Int.add_zero]
    | ok next =>
      have on (lines : List String) :
          readLines v taken k (first :: lines) o = readLines v taken (k + 1) lines next := by
        rw [readLines, read]
      obtain ⟨o', whole⟩ | ⟨before, line, rest, o', f, rfl, above, fault, whole⟩ := ih (k + 1) next
      · exact .inl ⟨o', (on _).trans whole⟩
      · have place : k + ((first :: before).length : Int) = k + 1 + before.length := by
          rw [List.length_cons]
          omega
        exact .inr ⟨first :: before, line, rest, o', f, rfl, (on _).trans above, place ▸ fault,
          (on _).trans whole⟩

/-! ## The table of functions -/

namespace Workspace

/-- The functions with the names under which they are known, in the order of their definition. -/
def functionTable (w : Workspace) : List (String × Routine) :=
  w.routines.known.entries.filterMap fun (id, r) => id.function?.map (·, r)

theorem isDefined_addFunction (w : Workspace) (f : Routine) (name : String) :
    (w.addFunction f).isDefined name = (decide (name = f.name) || w.isDefined name) := by
  rw [Bool.eq_iff_iff]
  simp only [isDefined, addFunction, Routines.register, Table.contains_iff_mem_keys,
    Table.keys_insert, Bool.or_eq_true, decide_eq_true_eq]
  split <;> grind

/-- A function with a new name comes last. -/
theorem functionTable_addFunction {w : Workspace} {f : Routine} (new : w.isDefined f.name = false) :
    (w.addFunction f).functionTable = w.functionTable ++ [(f.name, f)] := by
  have absent : w.routines.known.contains (.function f.name) = false := new
  simp [functionTable, addFunction, Routines.register, Table.insert, absent, RoutineId.function?]

/-- Functions with new names that differ come last, in their order. -/
theorem functionTable_addFunctions {w : Workspace} {fs : List Routine}
    (distinct : (fs.map Routine.name).Nodup) (new : ∀ f ∈ fs, w.isDefined f.name = false) :
    (fs.foldl .addFunction w).functionTable = w.functionTable ++ fs.map fun f => (f.name, f) := by
  induction fs generalizing w with
  | nil => simp
  | cons f fs ih =>
    rw [List.map_cons, List.nodup_cons] at distinct
    have later : ∀ g ∈ fs, (w.addFunction f).isDefined g.name = false := by
      intro g member
      have other : g.name ≠ f.name := fun same => distinct.1 (same ▸ List.mem_map_of_mem member)
      rw [isDefined_addFunction, new g (List.mem_cons_of_mem _ member), Bool.or_false]
      exact decide_eq_false other
    rw [List.foldl_cons, ih distinct.2 later, functionTable_addFunction (new f List.mem_cons_self),
      List.append_assoc]
    rfl

/-- A program is no function. -/
theorem functionTable_register_program (w : Workspace) (n : Nat) (r : Routine) :
    functionTable { w with routines := w.routines.register (.program n) r } = w.functionTable := by
  simp only [functionTable, Routines.register, Table.insert]
  split
  · simp only [Table.modify, List.filterMap_map]
    congr 1
    funext e
    by_cases same : e.1 = .program n <;> simp [same, RoutineId.function?]
  · simp [RoutineId.function?]

end Workspace

/-! ## Loading -/

namespace Debugger

variable {d d' : Debugger} {lines : List String} {fs : List Routine}

/-- The debugger `d'` has everything that `d` has, and as it was. Functions and programs may have
been added, a program under the number that is next. -/
structure Retains (d d' : Debugger) : Prop where
  stack : d'.routines.stack = d.routines.stack
  known : ∀ id r, id ≠ .program d.loads → d.routines.known.find? id = some r →
    d'.routines.known.find? id = some r
  vars : d'.vars = d.vars
  breakpoints : d'.breakpoints = d.breakpoints
  requested : d'.requested = d.requested
  strict : d'.strict = d.strict
  output : d'.output = d.output
  lastStop : d'.lastStop = d.lastStop

/-- A script is read to its end and becomes the program, or is read up to a line with a fault. -/
theorem load_cases (d : Debugger) (payload : String) :
    (∃ o, Outline.scan vocabulary d.isDefined 0 (Text.scriptLines payload) = (o, none) ∧
      ∃ events, d.load payload =
        .ok ((d.withFunctions o.functions).withProgram (Text.scriptLines payload) events).closeCode
          ()) ∨
    ∃ read line rest o f, Text.scriptLines payload = read ++ line :: rest ∧
      Outline.scan vocabulary d.isDefined 0 read = (o, none) ∧
      o.readLine vocabulary d.isDefined read.length line = .error f ∧
      d.load payload = .fault (d.withFunctions o.functions).closeCode f := by
  obtain ⟨o, whole⟩ | ⟨read, line, rest, o, f, split, above, fault, whole⟩ :=
    Outline.readLines_cases vocabulary d.isDefined 0 (Text.scriptLines payload) {}
  · exact .inl ⟨o, whole, _, load_of_scan whole⟩
  · rw [Int.zero_add] at fault
    exact .inr ⟨read, line, rest, o, f, split, above, fault, load_of_fault whole⟩

theorem partition_of_scan {o : Outline}
    (scanned : Outline.scan vocabulary d.isDefined 0 lines = (o, none)) :
    Outline.Partition vocabulary d.isDefined 0 lines o :=
  (Outline.partition_nil _ _ _).readLines (by rw [← scanned]; rfl)

/-! ### What is kept -/

theorem closeCode_eq (d : Debugger) :
    ∃ log, d.closeCode = { d with phase := if d.loads = 0 then .noCode else .ready, log } := by
  obtain ⟨log, entered⟩ := d.toSession.enter_eq (if d.loads = 0 then .noCode else .ready)
  exact ⟨log, by rw [closeCode, onSession, entered]⟩

theorem retains_withFunctions (new : ∀ f ∈ fs, d.isDefined f.name = false) :
    Retains d (d.withFunctions fs) := by
  have added : d.routines.Extends (fun id _ => ∃ f ∈ fs, id = .function f.name)
      (d.withFunctions fs).routines :=
    d.toWorkspace.extends_addFunctions fun f member => ⟨f, member, rfl⟩
  refine ⟨added.stack, fun id r _ found => added.find? ?_ found,
    d.toWorkspace.vars_addFunctions fs, rfl, rfl, rfl, rfl, rfl⟩
  rintro - ⟨f, member, rfl⟩
  have known := (Table.mem_keys_iff_find? _ _).2 ⟨r, found⟩
  have untaken := new f member
  rw [Workspace.isDefined, (Table.contains_iff_mem_keys _ _).2 known] at untaken
  cases untaken

namespace Retains

theorem withProgram (h : Retains d d') (number : d'.loads = d.loads) (lines : List String)
    (events : List Event) : Retains d (d'.withProgram lines events) := by
  refine ⟨h.stack, fun id r other found => ?_, h.vars, h.breakpoints, h.requested, h.strict,
    h.output, h.lastStop⟩
  have apart : id ≠ .program d'.loads := number ▸ other
  exact (Table.find?_insert _ _ _ _).trans ((if_neg apart).trans (h.known id r other found))

theorem closeCode (h : Retains d d') : Retains d d'.closeCode := by
  obtain ⟨log, closed⟩ := d'.closeCode_eq
  rw [closed]
  exact ⟨h.stack, h.known, h.vars, h.breakpoints, h.requested, h.strict, h.output, h.lastStop⟩

end Retains

/-- Loading keeps what there is, whether or not the script has a fault. -/
theorem load_retains (d : Debugger) (payload : String) : Retains d (d.load payload).state := by
  obtain ⟨o, scanned, events, loaded⟩ | ⟨read, line, rest, o, f, -, scanned, -, loaded⟩ :=
    load_cases d payload
  · rw [loaded]
    have kept := retains_withFunctions (partition_of_scan scanned).fresh
    exact (kept.withProgram rfl _ events).closeCode
  · rw [loaded]
    exact (retains_withFunctions (partition_of_scan scanned).fresh).closeCode

/-! ### What is new -/

theorem phase_closeCode (d : Debugger) :
    d.closeCode.phase = if d.closeCode.program? = none then .noCode else .ready := by
  obtain ⟨log, closed⟩ := d.closeCode_eq
  rw [closed]
  by_cases unloaded : d.loads = 0 <;> simp [program?, unloaded]

theorem find?_withProgram (d : Debugger) (lines : List String) (events : List Event) :
    (d.withProgram lines events).closeCode.routines.known.find? (.program d.loads) =
      some { name := programName, lines } := by
  rw [routines_closeCode]
  exact (Table.find?_insert _ _ _ _).trans (if_pos rfl)

theorem functionTable_closeCode (d : Debugger) : d.closeCode.functionTable = d.functionTable := by
  rw [Workspace.functionTable, routines_closeCode]
  rfl

/-- The functions of a script that is read without a fault come last in the table. -/
theorem functionTable_withFunctions {o : Outline}
    (scanned : Outline.scan vocabulary d.isDefined 0 lines = (o, none)) :
    (d.withFunctions o.functions).functionTable =
      d.functionTable ++ o.functions.map fun f => (f.name, f) := by
  have partition := partition_of_scan scanned
  exact Workspace.functionTable_addFunctions partition.distinct partition.fresh

/-- After a line was taken as code, the debugger waits for none. -/
theorem phase_load (d : Debugger) (payload : String) :
    (d.load payload).state.phase =
      if (d.load payload).state.program? = none then .noCode else .ready := by
  obtain ⟨o, -, events, loaded⟩ | ⟨read, line, rest, o, f, -, -, -, loaded⟩ := load_cases d payload
  · rw [loaded]
    exact phase_closeCode _
  · rw [loaded]
    exact phase_closeCode _

/-- Whether or not a script has a fault, loading it keeps the stack, the variables, the breakpoints
and every routine that is known; afterwards the debugger has code or waits for none. A script
without a fault becomes the program, under a new number. Of a script with a fault the lines above
the faulty one have been read: their functions are added, and the program stays the one before. -/
theorem load_changes_only_code (d : Debugger) (payload : String) :
    Retains d (d.load payload).state ∧
    (d.load payload).state.phase =
      (if (d.load payload).state.program? = none then .noCode else .ready) ∧
    ((∃ o, Outline.scan vocabulary d.isDefined 0 (Text.scriptLines payload) = (o, none) ∧
        (d.load payload).result = .ok () ∧
        (d.load payload).state.functionTable =
          d.functionTable ++ o.functions.map (fun f => (f.name, f)) ∧
        (d.load payload).state.program? = some (.program d.loads) ∧
        (d.load payload).state.routines.known.find? (.program d.loads) =
          some { name := "main", lines := Text.scriptLines payload, offset := 0, pointer := 0 }) ∨
      ∃ read line rest o f, Text.scriptLines payload = read ++ line :: rest ∧
        Outline.scan vocabulary d.isDefined 0 read = (o, none) ∧
        o.readLine vocabulary d.isDefined read.length line = .error f ∧
        (d.load payload).result = .error (.fault f) ∧
        (d.load payload).state.functionTable =
          d.functionTable ++ o.functions.map (fun f => (f.name, f)) ∧
        (d.load payload).state.program? = d.program?) := by
  refine ⟨load_retains d payload, phase_load d payload, ?_⟩
  obtain ⟨o, scanned, events, loaded⟩ | ⟨read, line, rest, o, f, split, scanned, fault, loaded⟩ :=
    load_cases d payload
  · rw [loaded]
    refine .inl ⟨o, scanned, rfl, ?_, rfl, find?_withProgram _ _ events⟩
    exact (functionTable_closeCode _).trans
      ((Workspace.functionTable_register_program _ _ _).trans (functionTable_withFunctions scanned))
  · rw [loaded]
    refine .inr ⟨read, line, rest, o, f, split, scanned, fault, rfl, ?_, rfl⟩
    exact (functionTable_closeCode _).trans (functionTable_withFunctions scanned)

/-- The second header has a name that an earlier load has defined. -/
example :
    let first : Debugger := (({} : Debugger).load "def f\n    set a 1").state
    let second := first.load "def g\n    set b 2\n    call f\ndef f\n    set c 3"
    second.result = .error (.fault (.redefinedFunction "f")) ∧
      second.state.functionTable =
        [("f", { name := "f", lines := ["set a 1"], offset := 1 }),
          ("g", { name := "g", lines := ["set b 2", "call f"], offset := 1 })] := by
  decide +kernel

end Debugger

end LineLang
