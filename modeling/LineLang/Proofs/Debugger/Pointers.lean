import LineLang.Proofs.Debugger.Lines
import LineLang.Proofs.Debugger.Loading
import LineLang.Proofs.Debugger.Passage

/-!
# Pointers stay in range

In a debugger that is in order, every routine that is known points at one of its statements or right
after the last one, and the frames on the stack belong to routines that are known (`InOrder`).
Micro-steps keep it so (`InOrder.tick`), and so do whole runs. A line that is typed keeps it so as
well, with one exception: a header on a frame at its end moves the pointer past the end
(`InOrder.response`).
-/

namespace LineLang

/-! ## Pointers of routines -/

namespace Routine

variable {r : Routine}

/-- The pointer is on a statement or right after the last one. -/
def InRange (r : Routine) : Prop :=
  0 ≤ r.pointer ∧ r.pointer ≤ r.lines.length

/-- The pointer is on a statement. -/
def Inside (r : Routine) : Prop :=
  0 ≤ r.pointer ∧ r.pointer < r.lines.length

theorem inRange_of_start (start : r.pointer = 0) : r.InRange := by
  simp [InRange, start]

theorem InRange.inside (h : r.InRange) (inside : r.atEnd = false) : r.Inside := by
  simp only [atEnd, decide_eq_false_iff_not] at inside
  have le_length := h.2
  exact ⟨h.1, by omega⟩

theorem Inside.exists_statement (h : r.Inside) : ∃ line, r.statement? = some line := by
  obtain ⟨nonneg, lt⟩ := h
  have bound : r.pointer.toNat < r.lines.length := by omega
  exact ⟨_, by rw [statement?, if_pos nonneg, List.getElem?_eq_getElem bound]⟩

theorem Inside.advance (h : r.Inside) : r.advance.InRange := by
  obtain ⟨nonneg, lt⟩ := h
  constructor
  · simp only [Routine.advance, pointAt]
    omega
  · simp only [Routine.advance, pointAt]
    omega

/-- From a statement the pointer moves on to the last indented line below it. -/
theorem Inside.skipBody (h : r.Inside) :
    ∃ r', r.skipBody = .ok r' () ∧ r'.Inside := by
  obtain ⟨nonneg, lt⟩ := h
  have body := (List.takeWhile_prefix (l := r.lines.drop (r.pointer + 1).toNat)
    Text.isIndented).length_le
  rw [List.length_drop] at body
  refine ⟨r.pointAt (r.pointer + (List.takeWhile Text.isIndented _).length),
    by rw [Routine.skipBody, if_neg (by omega)], ?_, ?_⟩
  · simp only [pointAt]
    omega
  · simp only [pointAt]
    omega

theorem lines_skipBody (r : Routine) : r.skipBody.state.lines = r.lines := by
  unfold Routine.skipBody
  split <;> rfl

/-- At the end there is nothing to look at. -/
theorem skipBody_of_atEnd (h : r.atEnd = true) : r.skipBody = .crash r.advance .noStatement := by
  simp only [atEnd, decide_eq_true_eq] at h
  rw [Routine.skipBody, if_pos (by omega)]

theorem mem_of_statement? {line : String} (h : r.statement? = some line) : line ∈ r.lines := by
  unfold statement? at h
  split at h
  · exact List.mem_of_getElem? h
  · split at h
    · exact List.mem_of_getElem? h
    · cases h

end Routine

namespace Debugger

variable {d d' e : Debugger} {t : Tick} {id : RoutineId} {mode : RunMode} {depth : Nat}
  {text : String} {o : Outcome} {f : Failure}

/-! ## Debuggers in order -/

/-- Pointers are in range, and what runs or can be started is known. -/
structure InOrder (d : Debugger) : Prop where
  inRange : ∀ id r, d.routines.known.find? id = some r → r.InRange
  running : ∀ id ∈ d.routines.stack, ∃ r, d.routines.known.find? id = some r
  program : ∀ id, d.program? = some id → ∃ r, d.routines.known.find? id = some r

theorem inOrder_fresh (strict : Bool) : InOrder { strict := strict } := by
  refine ⟨?_, ?_, ?_⟩
  · intro id r found
    cases found
  · intro id member
    cases member
  · intro id program
    cases program

namespace InOrder

/-- Only the routines and the number of loads matter. -/
theorem congr (h : InOrder d) (routines : e.routines = d.routines) (loads : e.loads = d.loads) :
    InOrder e := by
  have program : e.program? = d.program? := by simp only [program?, loads]
  exact ⟨routines ▸ h.inRange, routines ▸ h.running, program ▸ routines ▸ h.program⟩

theorem of_alike (h : InOrder d) (alike : Alike e d) : InOrder e :=
  h.congr alike.routines alike.loads

theorem modify (h : InOrder d) {change : Routine → Routine}
    (kept : ∀ r, d.routines.known.find? id = some r → (change r).InRange) :
    InOrder (d.onRoutines (·.modify id change)) := by
  have find (j : RoutineId) : (d.onRoutines (·.modify id change)).routines.known.find? j =
      if j = id then (d.routines.known.find? j).map change else d.routines.known.find? j :=
    Table.find?_modify _ _ _ _
  have still (j : RoutineId) (known : ∃ r, d.routines.known.find? j = some r) :
      ∃ r, (d.onRoutines (·.modify id change)).routines.known.find? j = some r := by
    obtain ⟨r, found⟩ := known
    rw [find, found]
    split
    · exact ⟨_, rfl⟩
    · exact ⟨r, rfl⟩
  refine ⟨?_, fun j member => still j (h.running j member),
    fun j program => still j (h.program j program)⟩
  intro j r found
  rw [find] at found
  split at found
  · next same =>
    subst same
    obtain ⟨r, known, rfl⟩ := Option.map_eq_some_iff.1 found
    exact kept r known
  · exact h.inRange j r found

theorem push (h : InOrder d) (known : ∃ r, d.routines.known.find? id = some r) :
    InOrder (d.onRoutines (·.push id)) := by
  refine { h with running := fun j member => ?_ }
  obtain rfl | member := List.mem_cons.1 member
  · exact known
  · exact h.running j member

theorem leave (h : InOrder d) (id : RoutineId) : InOrder (d.leave id) := by
  have rewound : InOrder (d.onRoutines (·.modify id Routine.rewind)) :=
    h.modify fun r _ => Routine.inRange_of_start rfl
  have popped : InOrder (d.onRoutines fun rs => (rs.modify id Routine.rewind).pop) :=
    { rewound with running := fun j member => rewound.running j (List.mem_of_mem_tail member) }
  unfold Debugger.leave
  dsimp only
  split
  · exact popped.congr rfl rfl
  · exact popped

/-- A frame that has not ended points at one of its statements. -/
theorem inside (h : InOrder d) {rest : List RoutineId} (stack : d.routines.stack = id :: rest)
    (inside : (d.routines.routine id).atEnd = false) :
    ∃ r, d.routines.known.find? id = some r ∧ r.Inside := by
  obtain ⟨r, found⟩ := h.running id (by simp [stack])
  rw [routine_of_find? found] at inside
  exact ⟨r, found, (h.inRange id r found).inside inside⟩

end InOrder

/-! ## Statements -/

/-- On a frame that has not ended, a header is passed over. -/
theorem InOrder.skipBody (h : InOrder d) (inside : d.isEnded = false) :
    d.skipBody.result = .ok () ∧ InOrder d.skipBody.state := by
  unfold Debugger.skipBody
  cases stack : d.routines.stack with
  | nil => simpa [Routines.top?, stack, Reply.ok] using h
  | cons id rest =>
    obtain ⟨r, found, within⟩ := h.inside stack (isEnded_of_stack stack ▸ inside)
    obtain ⟨r', skipped, within'⟩ := within.skipBody
    simp only [Routines.top?, stack, List.head?_cons, routine_of_find? found, skipped]
    exact ⟨rfl, h.modify fun _ _ => ⟨within'.1, Int.le_of_lt within'.2⟩⟩

/-- A statement keeps a debugger in order, unless it is a header on a frame that has ended. -/
theorem InOrder.execute (h : InOrder d) (line : String)
    (fits : commandOf? line = some .skipBody → d.isEnded = false) :
    InOrder (d.execute line).state := by
  have effect := execute_effect d line
  obtain same | ⟨header, skipped⟩ | ⟨-, name, r, found, pushed⟩ := effect.routines_cases
  · exact h.congr same effect.loads_eq
  · rw [skipped]
    exact (h.skipBody (fits header)).2
  · rw [pushed]
    exact h.push ⟨r, find?_of_function found⟩

/-- A statement leaves the pointer of its frame on a statement. -/
theorem exists_inside_execute {r : Routine} (top : d.routines.top? = some id)
    (found : d.routines.known.find? id = some r) (inside : r.Inside) (line : String) :
    ∃ r', (d.execute line).state.routines.known.find? id = some r' ∧ r'.Inside := by
  obtain same | ⟨-, skipped⟩ | ⟨-, name, f, -, pushed⟩ := (execute_effect d line).routines_cases
  · exact ⟨r, by rw [same, found], inside⟩
  · obtain ⟨r', passed, inside'⟩ := inside.skipBody
    refine ⟨r', ?_, inside'⟩
    rw [skipped, Debugger.skipBody, top]
    simp only [routine_of_find? found, passed]
    exact (Table.find?_modify _ _ _ _).trans (by simp [found, Reply.ok])
  · exact ⟨r, by rw [pushed]; exact found, inside⟩

/-! ## Micro-steps and runs -/

theorem InOrder.tick (h : InOrder d) (tick : d.tick = (d', t)) : InOrder d' := by
  have moves := tick ▸ tick_moves d
  cases moves with
  | idle | astray => exact h
  | leave id => exact h.leave id
  | execute id rest line stack inside =>
    obtain ⟨r, found, within⟩ := h.inside stack inside
    have executed := h.execute line fun _ => (isEnded_of_stack stack).trans inside
    obtain ⟨r', found', within'⟩ :=
      exists_inside_execute (by rw [Routines.top?, stack]; rfl) found within line
    -- The pointer that moves on is the one that the statement has left, which is another one after
    -- a header.
    refine executed.modify fun r'' found'' => ?_
    cases found'.symm.trans found''
    exact within'.advance
  | fail id rest line f stack inside =>
    exact h.execute line fun _ => (isEnded_of_stack stack).trans inside

/-! ## Lines -/

theorem InOrder.load (h : InOrder d) (payload : String) : InOrder (d.load payload).state := by
  have added := load_extends d payload
  refine ⟨?_, ?_, ?_⟩
  · intro id r found
    obtain found | new := added.added id r found
    · exact h.inRange id r found
    · exact Routine.inRange_of_start new.foundIn.start
  · intro id member
    rw [added.stack] at member
    exact added.known id (h.running id member)
  · intro id isProgram
    obtain before | known := program?_load isProgram
    · exact added.known id (h.program id before)
    · exact known

/-- Only a program that is known is started. -/
theorem InOrder.entered (h : InOrder d) (entered : d.entered? = some e) : InOrder e := by
  obtain ⟨id, -, program, rfl⟩ | ⟨-, rfl⟩ := entered_cases entered
  · exact h.push (h.program id program)
  · exact h

theorem InOrder.ends (h : InOrder d) (ends : Ends mode d d' o) : InOrder d' :=
  ends.keeps h InOrder.of_alike InOrder.entered InOrder.tick

/-- Typing the line executes a header on a frame that has ended. -/
def HeaderAtEnd (text : String) (d : Debugger) : Prop :=
  d.phase ≠ .waiting ∧ commandOf? text = some .skipBody ∧ d.isEnded = true

theorem InOrder.response (h : InOrder d) {reply : Reply Debugger Unit}
    (response : Response text d reply) (fits : ¬ d.HeaderAtEnd text) : InOrder reply.state := by
  cases response with
  | load => exact h.load text
  | execute ready =>
    refine h.execute text fun header => ?_
    exact Bool.eq_false_iff.2 fun ended => fits ⟨ready, header, ended⟩
  | resume mode ready command ends => exact h.ends ends

end Debugger

end LineLang
