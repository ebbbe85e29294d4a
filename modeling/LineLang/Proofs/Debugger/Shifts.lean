import LineLang.Proofs.Debugger.Runs

/-!
# What a micro-step does to the routines

`Shifts d rs t` lists what the micro-step `t` of the debugger `d` can do to the routines and the
stack, one constructor for each way in which a frame moves, comes or goes. `tick_shifts` says that
the list is complete. A micro-step that fails leaves the routines as they are.
-/

namespace LineLang

/-! ## Routines after a change of one of them -/

namespace Routines

variable {κ : Type} [DecidableEq κ] {rs : Routines κ} {k j : κ} {change : Routine → Routine}

theorem modify_modify (rs : Routines κ) (k : κ) (f g : Routine → Routine) :
    (rs.modify k f).modify k g = rs.modify k fun r => g (f r) := by
  simp only [modify, Table.modify, List.map_map]
  congr 3
  funext e
  by_cases same : e.1 = k <;> simp [same]

theorem routine_modify_of_ne (other : j ≠ k) : (rs.modify k change).routine j = rs.routine j := by
  rw [routine, modify, Table.find?_modify, if_neg other]
  rfl

/-- While one routine moves on, the others stay where they are. -/
theorem routine_modify_of_notMem {rest : List κ} (alone : k ∉ rest) (change : Routine → Routine) :
    ∀ j ∈ rest, (rs.modify k change).routine j = rs.routine j :=
  fun _ member => routine_modify_of_ne fun same => alone (same ▸ member)

theorem stack_pop_modify {rest : List κ} (stack : rs.stack = k :: rest)
    (change : Routine → Routine) : (rs.modify k change).pop.stack = rest := by
  simp [pop, modify, stack]

theorem routine_modify_self {r : Routine} (found : rs.known.find? k = some r) :
    (rs.modify k change).routine k = change r := by
  rw [routine, modify, Table.find?_modify, if_pos rfl, found, Option.map_some, Option.getD_some]

/-- Only the routine under the key changes, and only if it is known. -/
theorem routine_modify_cases (rs : Routines κ) (k j : κ) (change : Routine → Routine) :
    (rs.modify k change).routine j = rs.routine j ∨
      j = k ∧ (rs.modify k change).routine j = change (rs.routine j) := by
  by_cases same : j = k
  · subst same
    cases found : rs.known.find? j with
    | none =>
      left
      rw [routine, modify, Table.find?_modify, if_pos rfl, found, routine, found]
      rfl
    | some r =>
      right
      rw [routine_modify_self found, routine, found, Option.getD_some]
      exact ⟨rfl, rfl⟩
  · exact .inl (routine_modify_of_ne same)

/-- A routine that has not ended is known. -/
theorem find?_of_inside (inside : (rs.routine k).atEnd = false) :
    rs.known.find? k = some (rs.routine k) := by
  cases found : rs.known.find? k with
  | none =>
    rw [routine, found] at inside
    cases inside
  | some r => rw [routine, found, Option.getD_some]

end Routines

namespace Routine

variable {r : Routine} {line : String}

/-- The routine when its pointer has passed a header and the indented lines below it. -/
def pastBody (r : Routine) : Routine :=
  (r.pointAt
    (r.pointer + ((r.lines.drop (r.pointer + 1).toNat).takeWhile Text.isIndented).length)).advance

theorem pointer_lt_of_statement? (pending : r.statement? = some line) :
    r.pointer < r.lines.length := by
  unfold statement? at pending
  split at pending
  · have bound := (List.getElem?_eq_some_iff.1 pending).1
    omega
  · omega

/-- Where there is a statement, the lines below it can be passed over. -/
theorem skipBody_of_statement? (pending : r.statement? = some line) :
    ∃ passed, r.skipBody = .ok passed () ∧ passed.advance = r.pastBody := by
  have inside := pointer_lt_of_statement? pending
  exact ⟨_, by rw [Routine.skipBody, if_neg (by omega)], rfl⟩

end Routine

namespace Debugger

variable {d d' : Debugger} {t : Tick} {id : RoutineId} {rest : List RoutineId} {line : String}

theorem skipBody_of_statement? (stack : d.routines.stack = id :: rest)
    (pending : (d.routines.routine id).statement? = some line) :
    ∃ passed, d.skipBody = .ok (d.onRoutines (·.modify id fun _ => passed)) () ∧
      passed.advance = (d.routines.routine id).pastBody := by
  obtain ⟨passed, skipped, past⟩ := Routine.skipBody_of_statement? pending
  refine ⟨passed, ?_, past⟩
  unfold Debugger.skipBody
  rw [Routines.top?, stack, List.head?_cons]
  dsimp only
  rw [skipped]
  rfl

theorem routines_leave (id : RoutineId) (d : Debugger) :
    (d.leave id).routines = (d.routines.modify id Routine.rewind).pop := by
  unfold leave
  dsimp only
  split <;> rfl

/-- What the micro-step `t` can make of the routines. -/
inductive Shifts (d : Debugger) : Routines RoutineId → Tick → Prop
  /-- Nothing is left to run, or a statement fails. -/
  | stay {t : Tick} (still : ¬ t.Moved) : Shifts d d.routines t
  /-- The top routine has ended: it is rewound and its frame is taken away. -/
  | leave {id : RoutineId} {rest : List RoutineId} (stack : d.routines.stack = id :: rest)
      (ended : (d.routines.routine id).atEnd = true) :
      Shifts d (d.routines.modify id Routine.rewind).pop .returned
  /-- A statement that is no header and no call is executed. -/
  | advance {id : RoutineId} {rest : List RoutineId} {line : String}
      (stack : d.routines.stack = id :: rest) (inside : (d.routines.routine id).atEnd = false)
      (pending : (d.routines.routine id).statement? = some line)
      (other : commandOf? line ≠ some .skipBody ∧ commandOf? line ≠ some .call) :
      Shifts d (d.routines.modify id Routine.advance) (.executed id)
  | skip {id : RoutineId} {rest : List RoutineId} {line : String}
      (stack : d.routines.stack = id :: rest) (inside : (d.routines.routine id).atEnd = false)
      (pending : (d.routines.routine id).statement? = some line)
      (header : commandOf? line = some .skipBody) :
      Shifts d (d.routines.modify id fun _ => (d.routines.routine id).pastBody) (.executed id)
  | call {id : RoutineId} {rest : List RoutineId} {line name : String}
      (stack : d.routines.stack = id :: rest) (inside : (d.routines.routine id).atEnd = false)
      (pending : (d.routines.routine id).statement? = some line)
      (call : commandOf? line = some .call) (callee : callee? line = some name)
      (known : ∃ f, d.routines.known.find? (.function name) = some f) :
      Shifts d ((d.routines.push (.function name)).modify id Routine.advance) (.executed id)

namespace Shifts

variable {rs : Routines RoutineId}

theorem keys (h : Shifts d rs t) : rs.known.keys = d.routines.known.keys := by
  cases h with
  | stay => rfl
  | leave | advance | skip | call => exact Table.keys_modify ..

/-- Nothing of a routine but its pointer changes. -/
theorem exists_pointAt (h : Shifts d rs t) (j : RoutineId) :
    ∃ pointer, rs.routine j = (d.routines.routine j).pointAt pointer := by
  cases h with
  | stay => exact ⟨_, rfl⟩
  | @leave id =>
    obtain same | ⟨-, changed⟩ := d.routines.routine_modify_cases id j Routine.rewind
    · exact ⟨_, same⟩
    · exact ⟨_, changed⟩
  | @advance id =>
    obtain same | ⟨-, changed⟩ := d.routines.routine_modify_cases id j Routine.advance
    · exact ⟨_, same⟩
    · exact ⟨_, changed⟩
  | @skip id =>
    obtain same | ⟨rfl, changed⟩ :=
      d.routines.routine_modify_cases id j fun _ => (d.routines.routine id).pastBody
    · exact ⟨_, same⟩
    · exact ⟨_, changed⟩
  | @call id =>
    obtain same | ⟨-, changed⟩ := d.routines.routine_modify_cases id j Routine.advance
    · exact ⟨_, same⟩
    · exact ⟨_, changed⟩

end Shifts

theorem shifts_of_executed (stack : d.routines.stack = id :: rest)
    (inside : (d.routines.routine id).atEnd = false)
    (pending : (d.routines.routine id).statement? = some line)
    (done : (d.execute line).result = .ok ()) :
    Shifts d ((d.execute line).state.routines.modify id Routine.advance) (.executed id) := by
  by_cases header : commandOf? line = some .skipBody
  · obtain ⟨args, parsed⟩ := parse_of_commandOf? header
    obtain ⟨passed, skipped, past⟩ := skipBody_of_statement? stack pending
    rw [execute_of_parse d parsed, perform, skipped]
    change Shifts d ((d.routines.modify id fun _ => passed).modify id Routine.advance) _
    rw [Routines.modify_modify, past]
    exact .skip stack inside pending header
  · by_cases call : commandOf? line = some .call
    · obtain ⟨name, r, callee, found, executed⟩ := execute_of_call call done
      rw [executed]
      exact .call stack inside pending call callee ⟨r, find?_of_function found⟩
    · obtain same | ⟨header', -⟩ | ⟨call', -⟩ := (execute_effect d line).routines_cases
      · rw [same]
        exact .advance stack inside pending ⟨header, call⟩
      · exact absurd header' header
      · exact absurd call' call

/-- A statement that fails leaves the routines as they are. -/
theorem routines_of_failed {f : Failure} (stack : d.routines.stack = id :: rest)
    (pending : (d.routines.routine id).statement? = some line)
    (failed : (d.execute line).result = .error f) :
    (d.execute line).state.routines = d.routines := by
  obtain same | ⟨-, skipped⟩ | ⟨-, name, r, -, pushed⟩ := (execute_effect d line).routines_cases
  · exact same
  · obtain ⟨passed, done, -⟩ := skipBody_of_statement? stack pending
    rw [skipped, done] at failed
    cases failed
  · rw [pushed] at failed
    cases failed

/-- A micro-step does one of the things on the list. -/
theorem tick_shifts (tick : d.tick = (d', t)) : Shifts d d'.routines t := by
  have moves := tick ▸ tick_moves d
  cases moves with
  | idle => exact .stay not_false
  | leave id rest stack ended =>
    rw [routines_leave]
    exact .leave stack ended
  | execute id rest line stack inside pending done =>
    exact shifts_of_executed stack inside pending done
  | astray => exact .stay not_false
  | fail id rest line f stack inside pending failed =>
    rw [routines_of_failed stack pending failed]
    exact .stay not_false

theorem lines_tick (tick : d.tick = (d', t)) (id : RoutineId) :
    (d'.routines.routine id).lines = (d.routines.routine id).lines := by
  obtain ⟨pointer, same⟩ := (tick_shifts tick).exists_pointAt id
  rw [same]
  rfl

theorem name_tick (tick : d.tick = (d', t)) (id : RoutineId) :
    (d'.routines.routine id).name = (d.routines.routine id).name := by
  obtain ⟨pointer, same⟩ := (tick_shifts tick).exists_pointAt id
  rw [same]
  rfl

end Debugger

end LineLang
