import LineLang.Proofs.Debugger.Effect

/-!
# What loading adds

Loading a script makes routines known and takes none away (`load_extends`). Each of them is the
script itself or a function found in it (`Adds`), whose lines are lines of the script less their
indentation, and is on its first statement (`FoundIn`). This holds of a script with a fault as well,
up to which it was read.
-/

namespace LineLang

/-- The lines of the routine come from the script, and none of them has been executed. -/
structure Routine.FoundIn (script : List String) (r : Routine) : Prop where
  start : r.pointer = 0
  source : ∀ line ∈ r.lines, line ∈ script ∨ ∃ whole ∈ script, Text.dedent? whole = some line

/-! ## Functions of an outline -/

namespace Outline

variable {v : Vocabulary} {taken : String → Bool} {position : Int} {line : String} {o o' : Outline}
  {P : Routine → Prop}

theorem functions_of_readTopLevel
    (opened : ∀ name offset, readName (some name) = .ok name → taken name = false →
      P { name, offset })
    (h : o.readTopLevel v taken position line = .ok o') (found : ∀ r ∈ o.functions, P r) :
    ∀ r ∈ o'.functions, P r := by
  unfold readTopLevel at h
  split at h
  · cases h
  · split at h
    · cases h
      simpa [functions] using found
    · split at h
      · cases h
      · next name named =>
        split at h
        · cases h
        · next new =>
          cases h
          intro r member
          obtain member | member := List.mem_append.1 member
          · exact found r member
          · rw [List.mem_singleton.1 member]
            rw [eq_some_of_readName named] at named
            exact opened _ _ named (Bool.or_eq_false_iff.1 (Bool.eq_false_iff.2 new)).1

theorem functions_of_readLine
    (opened : ∀ name offset, readName (some name) = .ok name → taken name = false →
      P { name, offset })
    (appended : ∀ r body, Text.dedent? line = some body → P r → P (r.append body))
    (h : o.readLine v taken position line = .ok o') (found : ∀ r ∈ o.functions, P r) :
    ∀ r ∈ o'.functions, P r := by
  unfold readLine at h
  split at h
  · next f body current dedented =>
    cases h
    intro r member
    obtain member | member := List.mem_append.1 member
    · exact found r (List.mem_append_left _ member)
    · rw [List.mem_singleton.1 member]
      exact appended f body dedented (found f (by simp [functions, current]))
  · exact functions_of_readTopLevel opened h found

/-- What holds of a function without lines whose name can be read and is not taken, and still holds
when a line of the script is added to it, holds of every function that is found. -/
theorem functions_of_readLines {lines : List String}
    (opened : ∀ name offset, readName (some name) = .ok name → taken name = false →
      P { name, offset })
    (appended : ∀ r, ∀ line ∈ lines, ∀ body, Text.dedent? line = some body → P r →
      P (r.append body))
    (found : ∀ r ∈ o.functions, P r) :
    ∀ r ∈ (readLines v taken position lines o).1.functions, P r := by
  induction lines generalizing o position with
  | nil => exact found
  | cons line rest ih =>
    unfold readLines
    cases read : o.readLine v taken position line with
    | error f => exact found
    | ok o' =>
      refine ih (fun r line member => appended r line (List.mem_cons_of_mem _ member)) ?_
      exact functions_of_readLine opened (fun r => appended r line List.mem_cons_self) read found

theorem foundIn_of_scan (v : Vocabulary) (taken : String → Bool) (offset : Int)
    (script : List String) :
    ∀ r ∈ (scan v taken offset script).1.functions, r.FoundIn script := by
  apply functions_of_readLines
  · intro name offset _ _
    exact ⟨rfl, fun line member => by cases member⟩
  · intro r whole member body dedented h
    refine ⟨h.start, fun line member' => ?_⟩
    obtain member' | member' := List.mem_append.1 member'
    · exact h.source line member'
    · rw [List.mem_singleton.1 member']
      exact .inr ⟨whole, member, dedented⟩
  · intro r member
    cases member

/-- The names of the functions that are found were not taken. -/
theorem untaken_of_scan (v : Vocabulary) (taken : String → Bool) (offset : Int)
    (script : List String) :
    ∀ r ∈ (scan v taken offset script).1.functions, taken r.name = false := by
  apply functions_of_readLines
  · intro name offset _ untaken
    exact untaken
  · intro r line _ body _ untaken
    exact untaken
  · intro r member
    cases member

end Outline

/-! ## Known routines -/

/-- The stack is the same, what was known still is, and the routines that are new have the
property. -/
structure Routines.Extends (P : RoutineId → Routine → Prop) (rs rs' : Routines RoutineId) :
    Prop where
  stack : rs'.stack = rs.stack
  known : ∀ id, (∃ r, rs.known.find? id = some r) → ∃ r, rs'.known.find? id = some r
  added : ∀ id r, rs'.known.find? id = some r → rs.known.find? id = some r ∨ P id r

namespace Routines

variable {P : RoutineId → Routine → Prop} {rs rs' rs'' : Routines RoutineId}

theorem Extends.refl (rs : Routines RoutineId) : Extends P rs rs :=
  ⟨rfl, fun _ known => known, fun _ _ found => .inl found⟩

theorem Extends.trans (h : Extends P rs rs') (h' : Extends P rs' rs'') : Extends P rs rs'' := by
  refine ⟨h'.stack.trans h.stack, fun id known => h'.known id (h.known id known), ?_⟩
  intro id r found
  obtain found | new := h'.added id r found
  · exact h.added id r found
  · exact .inr new

theorem extends_register (rs : Routines RoutineId) {id : RoutineId} {r : Routine} (new : P id r) :
    Extends P rs (rs.register id r) := by
  refine ⟨rfl, ?_, ?_⟩
  · intro j known
    rw [register, Table.find?_insert]
    split
    · exact ⟨r, rfl⟩
    · exact known
  · intro j r' found
    rw [register, Table.find?_insert] at found
    split at found
    · next same =>
      cases found
      exact .inr (same ▸ new)
    · exact .inl found

theorem Extends.routine_cases (h : Extends P rs rs') (id : RoutineId) :
    rs'.routine id = rs.routine id ∨ P id (rs'.routine id) := by
  unfold routine
  cases found : rs'.known.find? id with
  | some r =>
    obtain before | new := h.added id r found
    · exact .inl (by rw [before])
    · exact .inr new
  | none =>
    cases before : rs.known.find? id with
    | none => exact .inl rfl
    | some r =>
      obtain ⟨r', found'⟩ := h.known id ⟨r, before⟩
      cases found.symm.trans found'

/-- What was known stays the same, unless the property holds of something else under its key. -/
theorem Extends.find? (h : Extends P rs rs') {id : RoutineId} {r : Routine}
    (other : ∀ r, ¬ P id r) (found : rs.known.find? id = some r) :
    rs'.known.find? id = some r := by
  obtain ⟨r', found'⟩ := h.known id ⟨r, found⟩
  obtain same | new := h.added id r' found'
  · rw [found', ← same, found]
  · exact absurd new (other r')

end Routines

theorem Workspace.extends_addFunctions {P : RoutineId → Routine → Prop} (w : Workspace)
    {fs : List Routine} (new : ∀ f ∈ fs, P (.function f.name) f) :
    w.routines.Extends P (fs.foldl .addFunction w).routines := by
  induction fs generalizing w with
  | nil => exact .refl _
  | cons f fs ih =>
    have first : w.routines.Extends P (w.addFunction f).routines :=
      Routines.extends_register _ (new f List.mem_cons_self)
    exact first.trans (ih _ fun g member => new g (List.mem_cons_of_mem _ member))

theorem Workspace.vars_addFunctions (w : Workspace) (fs : List Routine) :
    (fs.foldl .addFunction w).vars = w.vars := by
  induction fs generalizing w with
  | nil => rfl
  | cons f fs ih => exact ih _

/-- No key gets a second entry. -/
theorem Workspace.nodup_keys_addFunctions (w : Workspace) (fs : List Routine)
    (distinct : w.routines.known.keys.Nodup) :
    (fs.foldl .addFunction w).routines.known.keys.Nodup := by
  induction fs generalizing w with
  | nil => exact distinct
  | cons f fs ih => exact ih _ (Table.nodup_keys_insert distinct _ _)

namespace Debugger

variable {d : Debugger} {payload : String} {id : RoutineId} {r : Routine} {script : List String}

/-- The debugger when functions have been defined. -/
def withFunctions (d : Debugger) (fs : List Routine) : Debugger :=
  { d with toWorkspace := fs.foldl .addFunction d.toWorkspace }

/-- The debugger when lines have become the program, and the load has been noted. -/
def withProgram (d : Debugger) (lines : List String) (events : List Event) : Debugger :=
  (d.install lines).onSession (·.noteAll events)

/-- A script without a fault becomes the program. -/
theorem load_of_scan {o : Outline}
    (scanned : Outline.scan vocabulary d.isDefined 0 (Text.scriptLines payload) = (o, none)) :
    d.load payload = .ok ((d.withFunctions o.functions).withProgram (Text.scriptLines payload)
      (loadEvents (Text.scriptLines payload) o.functions)).closeCode () := by
  rw [load, Workspace.discover, scanned]
  rfl

/-- Of a script with a fault, the functions above the fault are defined. -/
theorem load_of_fault {o : Outline} {f : Fault}
    (scanned : Outline.scan vocabulary d.isDefined 0 (Text.scriptLines payload) = (o, some f)) :
    d.load payload = .fault (d.withFunctions o.functions).closeCode f := by
  rw [load, Workspace.discover, scanned]
  rfl

theorem routines_closeCode (d : Debugger) : d.closeCode.routines = d.routines :=
  Session.enter_routines _ _

/-- What loading a script makes known: the functions that are found in it, and the script as a
program if it has no fault. -/
inductive Adds (d : Debugger) (script : List String) : RoutineId → Routine → Prop
  | function {r : Routine}
      (found : r ∈ (Outline.scan vocabulary d.isDefined 0 script).1.functions) :
      Adds d script (.function r.name) r
  | program {o : Outline} (scanned : Outline.scan vocabulary d.isDefined 0 script = (o, none)) :
      Adds d script (.program d.loads) { name := programName, lines := script }

theorem Adds.foundIn (h : Adds d script id r) : r.FoundIn script := by
  cases h with
  | function found => exact Outline.foundIn_of_scan _ _ _ _ r found
  | program => exact ⟨rfl, fun line member => .inl member⟩

/-- A script is loaded, or it has a fault. -/
theorem load_result (d : Debugger) (payload : String) :
    (d.load payload).result = .ok () ∨ ∃ f, (d.load payload).result = .error (.fault f) := by
  rcases scanned : Outline.scan vocabulary d.isDefined 0 (Text.scriptLines payload) with
    ⟨outline, _ | f⟩
  · exact .inl (congrArg Reply.result (load_of_scan scanned))
  · exact .inr ⟨f, congrArg Reply.result (load_of_fault scanned)⟩

/-- Loading adds what it found, whether or not the script has a fault. -/
theorem load_extends (d : Debugger) (payload : String) :
    d.routines.Extends (d.Adds (Text.scriptLines payload)) (d.load payload).state.routines := by
  rcases scanned : Outline.scan vocabulary d.isDefined 0 (Text.scriptLines payload) with
    ⟨outline, fault⟩
  have functions : d.routines.Extends (d.Adds (Text.scriptLines payload))
      (d.withFunctions outline.functions).routines :=
    d.toWorkspace.extends_addFunctions fun f member => .function (by rwa [scanned])
  cases fault with
  | some f =>
    rw [load_of_fault scanned]
    simpa only [Reply.fault, routines_closeCode] using functions
  | none =>
    rw [load_of_scan scanned]
    simp only [Reply.ok, routines_closeCode]
    exact functions.trans (Routines.extends_register _ (.program scanned))

/-- What is added was not known, if the programs that are known were loaded before. -/
theorem Adds.find?_eq_none (h : Adds d script id r)
    (numbered : ∀ n, .program n ∈ d.routines.known.keys → n < d.loads) :
    d.routines.known.find? id = none := by
  rw [Table.find?_eq_none_iff]
  intro known
  cases h with
  | function found =>
    have untaken := Outline.untaken_of_scan _ _ _ _ r found
    rw [Workspace.isDefined, (Table.contains_iff_mem_keys _ _).2 known] at untaken
    cases untaken
  | program => exact Nat.lt_irrefl _ (numbered _ known)

/-- Loading leaves the routines that were known as they were. -/
theorem find?_load (numbered : ∀ n, .program n ∈ d.routines.known.keys → n < d.loads)
    (found : d.routines.known.find? id = some r) :
    (d.load payload).state.routines.known.find? id = some r := by
  refine (load_extends d payload).find? (fun r' adds => ?_) found
  rw [adds.find?_eq_none numbered] at found
  cases found

theorem nodup_keys_load (distinct : d.routines.known.keys.Nodup) (payload : String) :
    (d.load payload).state.routines.known.keys.Nodup := by
  rcases scanned : Outline.scan vocabulary d.isDefined 0 (Text.scriptLines payload) with
    ⟨outline, fault⟩
  have functions : (d.withFunctions outline.functions).routines.known.keys.Nodup :=
    d.toWorkspace.nodup_keys_addFunctions outline.functions distinct
  cases fault with
  | some f =>
    rw [load_of_fault scanned]
    simpa only [Reply.fault, routines_closeCode] using functions
  | none =>
    rw [load_of_scan scanned]
    simp only [Reply.ok, routines_closeCode]
    exact Table.nodup_keys_insert functions _ _

/-- A program that is loaded gets the next number. -/
theorem loads_load (d : Debugger) (payload : String) :
    (d.load payload).state.loads =
      match (Outline.scan vocabulary d.isDefined 0 (Text.scriptLines payload)).2 with
      | some _ => d.loads
      | none => d.loads + 1 := by
  rcases scanned : Outline.scan vocabulary d.isDefined 0 (Text.scriptLines payload) with
    ⟨outline, _ | f⟩
  · exact congrArg (fun reply => reply.state.loads) (load_of_scan scanned)
  · exact congrArg (fun reply => reply.state.loads) (load_of_fault scanned)

/-- The program of the next start is the one before or one that is known. -/
theorem program?_load (program : (d.load payload).state.program? = some id) :
    d.program? = some id ∨ ∃ r, (d.load payload).state.routines.known.find? id = some r := by
  rcases scanned : Outline.scan vocabulary d.isDefined 0 (Text.scriptLines payload) with
    ⟨outline, _ | f⟩
  · rw [load_of_scan scanned] at program ⊢
    obtain rfl : RoutineId.program d.loads = id := Option.some.inj program
    refine .inr ⟨{ name := programName, lines := Text.scriptLines payload }, ?_⟩
    simp only [Reply.ok, routines_closeCode]
    exact (Table.find?_insert _ _ _ _).trans (if_pos rfl)
  · rw [load_of_fault scanned] at program
    exact .inl program

end Debugger

end LineLang
