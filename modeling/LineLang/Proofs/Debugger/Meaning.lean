import LineLang.Proofs.Debugger.Runs
import LineLang.Proofs.Script.Meaning

/-!
# The debugger follows the meaning of a script

The micro-steps of a debugger carry out the lines that the top frame has ahead of it as `Performs`
says (`windsUp_of_performs`). A call puts a frame on the stack, the body is carried out there, and
one more micro-step takes the frame away and puts the pointer of the function back, so that
afterwards nothing but the pointer of the caller has moved (`Steady`).
-/

namespace LineLang

/-! ## The lines ahead of a pointer -/

/-- The pointer of the routine is on the first of the lines, which stands at `position`, or at the
end if there are none. -/
structure Routine.Ahead (r : Routine) (position : Int) (lines : List String) : Prop where
  place : r.position = position
  nonneg : 0 ≤ r.pointer
  le_length : r.pointer ≤ r.lines.length
  ahead : r.lines.drop r.pointer.toNat = lines

namespace Routine.Ahead

variable {r : Routine} {position : Int} {line : String} {lines : List String}

theorem ofStart (start : r.pointer = 0) : r.Ahead r.offset r.lines := by
  refine ⟨?_, ?_, ?_, ?_⟩
  · rw [Routine.position, start, Int.add_zero]
  · omega
  · omega
  · rw [start]
    rfl

theorem atEnd (h : r.Ahead position []) : r.atEnd = true := by
  have bound := List.drop_eq_nil_iff.1 h.ahead
  have nonneg := h.nonneg
  have le_length := h.le_length
  simp only [Routine.atEnd, decide_eq_true_eq]
  omega

theorem pointer_lt (h : r.Ahead position (line :: lines)) : r.pointer < r.lines.length := by
  have some_line : r.lines.drop r.pointer.toNat ≠ [] := by
    rw [h.ahead]
    simp
  have bound : ¬ r.lines.length ≤ r.pointer.toNat := mt List.drop_eq_nil_iff.2 some_line
  have nonneg := h.nonneg
  omega

theorem not_atEnd (h : r.Ahead position (line :: lines)) : r.atEnd = false := by
  have inside := h.pointer_lt
  simp only [Routine.atEnd, decide_eq_false_iff_not]
  omega

theorem statement? (h : r.Ahead position (line :: lines)) : r.statement? = some line := by
  rw [Routine.statement?, if_pos h.nonneg, ← List.head?_drop, h.ahead, List.head?_cons]

theorem drop_succ (h : r.Ahead position (line :: lines)) :
    r.lines.drop (r.pointer + 1).toNat = lines := by
  have nonneg := h.nonneg
  rw [show (r.pointer + 1).toNat = r.pointer.toNat + 1 by omega, ← List.drop_drop, h.ahead]
  rfl

/-- The pointer passes over a number of lines below the one that it is on. -/
theorem advance_pointAt (h : r.Ahead position (line :: lines)) {n : Nat}
    (bound : n ≤ lines.length) :
    (r.pointAt (r.pointer + n)).advance.Ahead (position + 1 + n) (lines.drop n) := by
  have nonneg := h.nonneg
  have inside := h.pointer_lt
  have place := h.place
  have left := congrArg List.length h.drop_succ
  rw [List.length_drop] at left
  simp only [Routine.position] at place
  refine ⟨?_, ?_, ?_, ?_⟩
  · simp only [Routine.position, advance, pointAt]
    omega
  · simp only [advance, pointAt]
    omega
  · simp only [advance, pointAt]
    omega
  · simp only [advance, pointAt]
    rw [show (r.pointer + n + 1).toNat = (r.pointer + 1).toNat + n by omega, ← List.drop_drop,
      h.drop_succ]

theorem advance (h : r.Ahead position (line :: lines)) : r.advance.Ahead (position + 1) lines := by
  have moved := h.advance_pointAt (Nat.zero_le _)
  rw [Int.natCast_zero, Int.add_zero, Int.add_zero, List.drop_zero] at moved
  exact moved

/-- A header is passed over together with the indented lines below it. -/
theorem skipBody (h : r.Ahead position (line :: lines)) :
    ∃ r', r.skipBody = .ok r' () ∧ r'.rewind = r.rewind ∧
      r'.advance.Ahead (position + 1 + (lines.takeWhile Text.isIndented).length)
        (lines.dropWhile Text.isIndented) := by
  have inside := h.pointer_lt
  have after : lines.drop (lines.takeWhile Text.isIndented).length =
      lines.dropWhile Text.isIndented := by
    calc lines.drop (lines.takeWhile Text.isIndented).length
      _ = (lines.takeWhile Text.isIndented ++ lines.dropWhile Text.isIndented).drop
            (lines.takeWhile Text.isIndented).length := by rw [List.takeWhile_append_dropWhile]
      _ = lines.dropWhile Text.isIndented := List.drop_left
  refine ⟨r.pointAt (r.pointer + (lines.takeWhile Text.isIndented).length), ?_, rfl, ?_⟩
  · rw [Routine.skipBody, if_neg (by omega)]
    dsimp only
    rw [h.drop_succ]
  · rw [← after]
    exact h.advance_pointAt (List.takeWhile_prefix _).length_le

end Routine.Ahead

namespace Debugger

variable {d d' d'' : Debugger} {id : RoutineId} {r r' : Routine} {position : Int} {text : String}
  {lines args : List String} {m n : Nat}

/-! ## Single micro-steps -/

theorem execute_onVariables {c : VariableCommand} {vars : Variables}
    (parsed : vocabulary.parse text = .ok ⟨c.name, args⟩)
    (done : c.perform args (d.positionOr none) d.vars = .ok (vars, lines)) :
    d.execute text = .ok ({ d with vars }.onSession (·.write lines)) () := by
  rw [execute_of_parse (c := .session (.onVariables c)) d parsed, perform,
    SessionCommand.perform_onVariables, done]
  rfl

theorem execute_call {name : String} {f : Routine}
    (parsed : vocabulary.parse text = .ok ⟨"call", args⟩) (named : readName args[0]? = .ok name)
    (found : d.routines.known.find? (.function name) = some f) :
    d.execute text = .ok (d.onRoutines (·.push (.function name))) () := by
  rw [execute_of_parse (c := .call) d parsed]
  simp only [perform, call_eq, named, Workspace.function, found]
  rfl

theorem execute_header (parsed : vocabulary.parse text = .ok ⟨Outline.header, args⟩) :
    d.execute text = d.skipBody :=
  execute_of_parse (c := .skipBody) d parsed

theorem positionOr_of_top (top : d.routines.top? = some id)
    (found : d.routines.known.find? id = some r) (outside : Option Int) :
    d.positionOr outside = some r.position := by
  simp only [Workspace.positionOr, Routines.position?, top, Option.map_some, routine_of_find? found]

theorem tick_of_ahead (top : d.routines.top? = some id)
    (found : d.routines.known.find? id = some r) (ahead : r.Ahead position (text :: lines))
    (done : d.execute text = .ok d' ()) :
    d.tick = (d'.onRoutines (·.modify id Routine.advance), .executed id) := by
  simp only [tick, top, routine_of_find? found, ahead.not_atEnd, ahead.statement?, done, Reply.ok,
    Bool.false_eq_true, if_false]

theorem tick_of_atEnd (top : d.routines.top? = some id)
    (found : d.routines.known.find? id = some r) (ended : r.atEnd = true) :
    d.tick = (d.leave id, .returned) := by
  simp only [tick, top, routine_of_find? found, ended, if_true]

/-- A frame that has another one below it is taken away, and the variables stay. -/
theorem leave_of_caller (caller : d.routines.stack.tail ≠ []) :
    d.leave id = d.onRoutines fun rs => (rs.modify id Routine.rewind).pop := by
  have some_frame : (d.onRoutines fun rs =>
      (rs.modify id Routine.rewind).pop).routines.stack.isEmpty = false := by
    simpa [onRoutines, Routines.pop, Routines.modify] using caller
  rw [leave, some_frame, if_neg Bool.false_ne_true]

/-! ## The course of a script -/

/-- Between the two debuggers the routine under `id` may have moved its pointer, and nothing else
has changed except the variables and the lines written. -/
structure Steady (id : RoutineId) (d d' : Debugger) : Prop where
  stack : d'.routines.stack = d.routines.stack
  others : ∀ j, j ≠ id → d'.routines.known.find? j = d.routines.known.find? j
  breakpoints : d'.breakpoints = d.breakpoints

theorem Steady.trans (h : Steady id d d') (h' : Steady id d' d'') : Steady id d d'' :=
  ⟨h'.stack.trans h.stack, fun j other => (h'.others j other).trans (h.others j other),
    h'.breakpoints.trans h.breakpoints⟩

theorem Steady.top (h : Steady id d d') (top : d.routines.top? = some id) :
    d'.routines.top? = some id := by
  rw [Routines.top?, h.stack]
  exact top

theorem Steady.runningNames (h : Steady id d d') : d'.runningNames = d.runningNames := by
  rw [Workspace.runningNames, h.stack, Workspace.runningNames]

theorem tick_onVariables {c : VariableCommand} {vars : Variables} {written : List String}
    (top : d.routines.top? = some id) (found : d.routines.known.find? id = some r)
    (ahead : r.Ahead position (text :: lines))
    (parsed : vocabulary.parse text = .ok ⟨c.name, args⟩)
    (done : c.perform args (some position) d.vars = .ok (vars, written)) :
    ∃ d', d.tick = (d', .executed id) ∧ Steady id d d' ∧
      d'.routines.known.find? id = some r.advance ∧ d'.store = ⟨vars, d.output.addAll written⟩ := by
  rw [← ahead.place, ← positionOr_of_top top found none] at done
  refine ⟨_, tick_of_ahead top found ahead (execute_onVariables parsed done),
    ⟨rfl, fun j other => ?_, rfl⟩, ?_, rfl⟩
  · exact Routines.find?_modify_of_ne other
  · exact Routines.find?_modify_self found

theorem tick_header (top : d.routines.top? = some id)
    (found : d.routines.known.find? id = some r) (ahead : r.Ahead position (text :: lines))
    (parsed : vocabulary.parse text = .ok ⟨Outline.header, args⟩) :
    ∃ d' r', d.tick = (d', .executed id) ∧ Steady id d d' ∧
      d'.routines.known.find? id = some r' ∧ d'.store = d.store ∧ r'.rewind = r.rewind ∧
      r'.Ahead (position + 1 + (lines.takeWhile Text.isIndented).length)
        (lines.dropWhile Text.isIndented) := by
  obtain ⟨passed, skipped, same, ahead'⟩ := ahead.skipBody
  have done : d.execute text = .ok (d.onRoutines (·.modify id fun _ => passed)) () := by
    rw [execute_header parsed, Debugger.skipBody, top]
    dsimp only
    rw [routine_of_find? found, skipped]
    rfl
  refine ⟨_, passed.advance, tick_of_ahead top found ahead done, ⟨rfl, fun j other => ?_, rfl⟩, ?_,
    rfl, same, ahead'⟩
  · exact (Routines.find?_modify_of_ne other).trans (Routines.find?_modify_of_ne other)
  · exact Routines.find?_modify_self (Routines.find?_modify_self found)

/-- The micro-step of a call enters the function, and the caller is past the call. -/
theorem tick_call {name : String} {f : Routine} (top : d.routines.top? = some id)
    (found : d.routines.known.find? id = some r) (ahead : r.Ahead position (text :: lines))
    (parsed : vocabulary.parse text = .ok ⟨"call", args⟩) (named : readName args[0]? = .ok name)
    (callee : d.routines.known.find? (.function name) = some f) :
    ∃ d', d.tick = (d', .executed id) ∧
      d'.routines.stack = .function name :: d.routines.stack ∧ d'.store = d.store ∧
      d'.breakpoints = d.breakpoints ∧ d'.routines.known.find? id = some r.advance ∧
      ∀ j, j ≠ id → d'.routines.known.find? j = d.routines.known.find? j := by
  refine ⟨_, tick_of_ahead top found ahead (execute_call parsed named callee), rfl, rfl, rfl, ?_,
    fun j other => ?_⟩
  · exact Routines.find?_modify_self found
  · exact Routines.find?_modify_of_ne other

/-- The debugger has the functions, and those that do not run are at their start. -/
def Knows (known : String → Option Routine) (d : Debugger) : Prop :=
  ∀ name f, known name = some f → f.pointer = 0 ∧
    (.function name ∉ d.routines.stack → d.routines.known.find? (.function name) = some f)

variable {known : String → Option Routine} {running : List String} {s s' : Store}

/-- A running routine may move, and more functions may run. -/
theorem Knows.mono (h : Knows known d) (running : id ∈ d.routines.stack)
    (stack : d.routines.stack ⊆ d'.routines.stack)
    (others : ∀ j, j ≠ id → d'.routines.known.find? j = d.routines.known.find? j) :
    Knows known d' := by
  intro name f found
  obtain ⟨start, ready⟩ := h name f found
  refine ⟨start, fun free => ?_⟩
  have free : .function name ∉ d.routines.stack := fun member => free (stack member)
  have other : .function name ≠ id := by
    rintro rfl
    exact free running
  rw [others _ other, ready free]

theorem Knows.steady (h : Knows known d) (steady : Steady id d d')
    (top : d.routines.top? = some id) : Knows known d' := by
  apply h.mono (List.mem_of_mem_head? top) _ steady.others
  rw [steady.stack]
  exact List.Subset.refl _

/-- The micro-steps lead to the end of the routine `r` under `id`, which has the top frame, and then
the store is `s'`. -/
def WindsUp (id : RoutineId) (r : Routine) (d : Debugger) (s' : Store) : Prop :=
  ∃ n d' r', Advances n d d' ∧ Steady id d d' ∧ d'.routines.known.find? id = some r' ∧
    r'.atEnd = true ∧ r'.rewind = r.rewind ∧ d'.store = s'

theorem WindsUp.prepend (h : WindsUp id r' d' s') (advances : Advances m d d')
    (steady : Steady id d d') (same : r'.rewind = r.rewind) : WindsUp id r d s' := by
  obtain ⟨n, last, end_, advances', steady', found, ended, same', store⟩ := h
  exact ⟨m + n, last, end_, advances.trans advances', steady.trans steady', found, ended,
    same'.trans same, store⟩

/-- A called function that has wound up is taken from the stack, and is at its start again. -/
theorem WindsUp.leave {name : String} {f : Routine} {entered : Debugger} {rest : List RoutineId}
    (h : WindsUp (.function name) f entered s') (start : f.pointer = 0)
    (stack : entered.routines.stack = .function name :: rest) (caller : rest ≠ []) :
    ∃ n d', Advances n entered d' ∧ d'.routines.stack = rest ∧ d'.store = s' ∧
      d'.breakpoints = entered.breakpoints ∧
      d'.routines.known.find? (.function name) = some f ∧
      ∀ j, j ≠ .function name → d'.routines.known.find? j = entered.routines.known.find? j := by
  obtain ⟨n, last, end_, advances, steady, found, ended, same, store⟩ := h
  have stack' : last.routines.stack = .function name :: rest := steady.stack.trans stack
  have top : last.routines.top? = some (.function name) := by simp [Routines.top?, stack']
  have tick := tick_of_atEnd top found ended
  rw [leave_of_caller (by rw [stack']; exact caller)] at tick
  refine ⟨n + 1, _, advances.trans (.step tick trivial (.refl _)), ?_, store, steady.breakpoints,
    ?_, fun j other => ?_⟩
  · exact congrArg List.tail stack'
  · have back : end_.rewind = f := by rw [same, Routine.rewind, Routine.pointAt, ← start]
    rw [← back]
    exact Routines.find?_modify_self found
  · exact (Routines.find?_modify_of_ne other).trans (steady.others j other)

/-- The lines ahead of the top frame are carried out as they are meant. -/
theorem windsUp_of_performs (h : Performs known running position lines s s')
    (top : d.routines.top? = some id) (names : d.runningNames = running)
    (found : d.routines.known.find? id = some r) (ahead : r.Ahead position lines)
    (knows : Knows known d) (store : d.store = s) : WindsUp id r d s' := by
  induction h generalizing d id r with
  | nil s => exact ⟨0, d, r, .refl d, ⟨rfl, fun _ _ => rfl, rfl⟩, found, ahead.atEnd, rfl, store⟩
  | onVariables parsed done _ ih =>
    subst store
    obtain ⟨next, tick, steady, found', store'⟩ := tick_onVariables top found ahead parsed done
    have wound := ih (steady.top top) (steady.runningNames.trans names) found' ahead.advance
      (knows.steady steady top) store'
    exact wound.prepend (.step tick trivial (.refl _)) steady rfl
  | header parsed _ ih =>
    obtain ⟨next, r', tick, steady, found', store', same, ahead'⟩ :=
      tick_header top found ahead parsed
    have wound := ih (steady.top top) (steady.runningNames.trans names) found' ahead'
      (knows.steady steady top) (store'.trans store)
    exact wound.prepend (.step tick trivial (.refl _)) steady same
  | @call _ _ _ _ _ _ _ _ name f parsed named callee free _ _ ihBody ih =>
    subst names
    obtain ⟨start, ready⟩ := knows name f callee
    have free : .function name ∉ d.routines.stack := fun member =>
      free (Workspace.mem_runningNames.2 member)
    have running_id : id ∈ d.routines.stack := List.mem_of_mem_head? top
    have other : id ≠ .function name := by
      rintro rfl
      exact free running_id
    obtain ⟨entered, tick, stack, store', breakpoints, found', others⟩ :=
      tick_call top found ahead parsed named (ready free)
    have knows' : Knows known entered := by
      apply knows.mono running_id _ others
      rw [stack]
      exact List.subset_cons_self _ _
    have entering := ihBody (by rw [Routines.top?, stack]; rfl)
      (by rw [Workspace.runningNames, stack]; rfl) (by rw [others _ other.symm, ready free])
      (.ofStart start) knows' (store'.trans store)
    obtain ⟨n, left, advances, stack', store'', breakpoints', back, others'⟩ :=
      entering.leave start stack (List.ne_nil_of_mem running_id)
    have steady : Steady id d left := by
      refine ⟨stack', fun j differ => ?_, breakpoints'.trans breakpoints⟩
      by_cases callee : j = .function name
      · rw [callee, back, ready free]
      · rw [others' j callee, others j differ]
    have wound := ih (steady.top top) steady.runningNames ((others' id other).trans found')
      ahead.advance (knows.steady steady top) store''
    exact wound.prepend (.step tick trivial advances) steady rfl

end Debugger

end LineLang
