import LineLang.Proofs.Debugger.Crashes
import LineLang.Proofs.Debugger.Schedule
import Mathlib.Algebra.Group.Nat.Defs
import Mathlib.Data.List.Chain
import Mathlib.Data.List.Perm.Subperm

/-!
# Programs without recursion come to an end

If no function calls itself, directly or through others, then every start ends, and so does every
later one (`starts_end_of_acyclic`). The stack holds the program and functions each of which is
called by the one below it (`Nested`), so a function without a cycle of calls has one frame at most,
and there are no more frames than routines. A micro-step lowers the `weight` of the stack: what a
routine has still to do weighs more than everything that can be put on top of it.
-/

namespace LineLang

/-! ## The weight of a stack -/

namespace Routine

variable {r : Routine}

/-- The number of lines from the pointer to the end. -/
def remaining (r : Routine) : Nat :=
  (r.lines.length - r.pointer).toNat

theorem remaining_rewind (r : Routine) : r.rewind.remaining = r.lines.length := by
  simp [remaining, rewind, pointAt]

theorem remaining_advance (inside : r.pointer < r.lines.length) :
    r.advance.remaining + 1 ≤ r.remaining := by
  simp only [remaining, advance, pointAt]
  omega

theorem remaining_pastBody (inside : r.pointer < r.lines.length) :
    r.pastBody.remaining + 1 ≤ r.remaining := by
  simp only [remaining, pastBody, advance, pointAt]
  omega

end Routine

namespace Routines

variable {rs : Routines RoutineId} {k : RoutineId} {base height : Nat} {change : Routine → Routine}

/-- Every routine has fewer lines than `base`, also ahead of its pointer, with room for one more. -/
def Fits (base : Nat) (rs : Routines RoutineId) : Prop :=
  ∀ id, (rs.routine id).remaining + 1 < base ∧ (rs.routine id).lines.length + 1 < base

theorem exists_fits (rs : Routines RoutineId) : ∃ base, rs.Fits base := by
  obtain ⟨bound, le⟩ :
      ∃ bound, ∀ r ∈ rs.known.values, r.remaining + r.lines.length ≤ bound := by
    induction rs.known.values with
    | nil => exact ⟨0, by simp⟩
    | cons r values ih =>
      obtain ⟨bound, le⟩ := ih
      refine ⟨r.remaining + r.lines.length + bound, fun r' member => ?_⟩
      obtain rfl | member := List.mem_cons.1 member
      · omega
      · have := le r' member
        omega
  refine ⟨bound + 2, fun id => ?_⟩
  unfold routine
  cases found : rs.known.find? id with
  | none => exact ⟨Nat.lt_add_left bound (by decide), Nat.lt_add_left bound (by decide)⟩
  | some r =>
    have := le r (List.mem_map_of_mem (Table.mem_entries_of_find? found))
    rw [Option.getD_some]
    omega

theorem Fits.modify (h : rs.Fits base)
    (lines : (change (rs.routine k)).lines = (rs.routine k).lines)
    (fits : (change (rs.routine k)).remaining + 1 < base) : (rs.modify k change).Fits base := by
  intro id
  obtain same | ⟨rfl, changed⟩ := rs.routine_modify_cases k id change
  · rw [same]
    exact h id
  · rw [changed, lines]
    exact ⟨fits, (h id).2⟩

/-- What the frames have still to do, if there is room for `height` frames: a line of one frame
weighs `base` times as much as a line of the next frame above it. -/
def weightOf (base height : Nat) (rs : Routines RoutineId) : List RoutineId → Nat
  | [] => 0
  | id :: rest =>
    ((rs.routine id).remaining + 1) * base ^ (height - (rest.length + 1)) +
      rs.weightOf base height rest

theorem weightOf_congr {rs' : Routines RoutineId} {stack : List RoutineId}
    (same : ∀ id ∈ stack, rs'.routine id = rs.routine id) :
    rs'.weightOf base height stack = rs.weightOf base height stack := by
  induction stack with
  | nil => rfl
  | cons id rest ih =>
    rw [weightOf, weightOf, same id List.mem_cons_self,
      ih fun j member => same j (List.mem_cons_of_mem _ member)]

/-- A routine that has moved on weighs one line less. -/
theorem weightOf_modify_le (base height : Nat) {id : RoutineId} {rest : List RoutineId}
    (once : id ∉ rest)
    (found : rs.known.find? id = some (rs.routine id)) (change : Routine → Routine)
    (lighter : (change (rs.routine id)).remaining + 1 ≤ (rs.routine id).remaining) :
    (rs.modify id change).weightOf base height (id :: rest) +
      base ^ (height - (rest.length + 1)) ≤ rs.weightOf base height (id :: rest) := by
  have others : (rs.modify id change).weightOf base height rest = rs.weightOf base height rest :=
    weightOf_congr (routine_modify_of_notMem once change)
  have heavier := Nat.mul_le_mul_right (base ^ (height - (rest.length + 1))) lighter
  rw [weightOf, weightOf, others, routine_modify_self found]
  rw [Nat.add_mul, Nat.one_mul] at heavier ⊢
  rw [Nat.add_mul, Nat.one_mul]
  omega

theorem Fits.pow_pos (h : rs.Fits base) (n : Nat) : 0 < base ^ n :=
  Nat.pow_pos (Nat.zero_lt_of_lt (h (.program 0)).1)

theorem Fits.weightOf_modify_lt (h : rs.Fits base) {id : RoutineId} {rest : List RoutineId}
    (alone : id ∉ rest) (found : rs.known.find? id = some (rs.routine id))
    {change : Routine → Routine}
    (lighter : (change (rs.routine id)).remaining + 1 ≤ (rs.routine id).remaining) :
    (rs.modify id change).weightOf base height (id :: rest) <
      rs.weightOf base height (id :: rest) := by
  have le := rs.weightOf_modify_le base height alone found change lighter
  have positive := h.pow_pos (height - (rest.length + 1))
  omega

/-- A frame on top has fewer than `base` lines, so it weighs less than one line of its caller. -/
theorem Fits.weight_lt_line (h : rs.Fits base) (id : RoutineId) {caller : RoutineId}
    {rest : List RoutineId} (room : (id :: caller :: rest).length ≤ height) :
    ((rs.routine id).remaining + 1) * base ^ (height - ((caller :: rest).length + 1)) <
      base ^ (height - (rest.length + 1)) := by
  simp only [List.length_cons] at room ⊢
  rw [show height - (rest.length + 1) = height - (rest.length + 1 + 1) + 1 by omega, Nat.pow_succ']
  exact Nat.mul_lt_mul_of_pos_right (h id).1 (h.pow_pos _)

end Routines

namespace Debugger

variable {d d' e x : Debugger} {t : Tick} {id : RoutineId} {mode : RunMode} {depth : Nat}
  {o : Outcome} {f : Failure}

/-! ## Who calls whom -/

/-- A line of the first function calls the second. -/
def Calls (d : Debugger) (f g : String) : Prop :=
  ∃ line ∈ (d.routines.routine (.function f)).lines, callee? line = some g

/-- No function calls itself, directly or through others. -/
def Acyclic (d : Debugger) : Prop :=
  ∀ f, ¬ Relation.TransGen d.Calls f f

/-- Neither the program of the next start nor a function has a line that starts a run. -/
structure StartsNoRun (d : Debugger) : Prop where
  program : ∀ id, d.program? = some id → StartFree (d.routines.routine id).lines
  functions : ∀ name, StartFree (d.routines.routine (.function name)).lines

/-- The upper routine is a function that a line of the lower one calls. -/
def Links (d : Debugger) (upper lower : RoutineId) : Prop :=
  ∃ name, upper = .function name ∧
    ∃ line ∈ (d.routines.routine lower).lines, callee? line = some name

/-- Every frame was put on the stack by a call in the one below it, and the lowest frame is that of
the program. -/
structure Nested (d : Debugger) : Prop where
  linked : d.routines.stack.IsChain d.Links
  frames : ∀ id ∈ d.routines.stack, d.program? = some id ∨
    ∃ name r, id = .function name ∧ d.routines.known.find? id = some r

theorem exists_transGen_of_links {upper lower : RoutineId}
    (h : Relation.TransGen d.Links upper lower) :
    ∃ g, upper = .function g ∧ ∀ f, lower = .function f → Relation.TransGen d.Calls f g := by
  induction h with
  | single link =>
    obtain ⟨g, rfl, line, member, callee⟩ := link
    refine ⟨g, rfl, ?_⟩
    rintro f rfl
    exact .single ⟨line, member, callee⟩
  | tail _ link ih =>
    obtain ⟨g, rfl, reaches⟩ := ih
    obtain ⟨between, rfl, line, member, callee⟩ := link
    refine ⟨g, rfl, ?_⟩
    rintro f rfl
    exact .head ⟨line, member, callee⟩ (reaches between rfl)

/-- Without recursion a routine has one frame at most. -/
theorem Nested.nodup (h : Nested d) (acyclic : d.Acyclic) : d.routines.stack.Nodup := by
  have chain : d.routines.stack.IsChain (Relation.TransGen d.Links) :=
    h.linked.imp fun _ _ => .single
  have pairwise := List.isChain_iff_pairwise.1 chain
  refine pairwise.imp fun {upper lower} reaches same => ?_
  subst same
  obtain ⟨g, rfl, cycle⟩ := exists_transGen_of_links reaches
  exact acyclic g (cycle g rfl)

/-- Without recursion there is one frame more than there are routines, at most. -/
theorem Nested.depth_le (h : Nested d) (acyclic : d.Acyclic) :
    d.routines.depth ≤ d.routines.known.keys.length + 1 := by
  have subset : d.routines.stack ⊆ d.program?.toList ++ d.routines.known.keys := by
    intro id member
    obtain program | ⟨name, r, -, found⟩ := h.frames id member
    · simp [program]
    · exact List.mem_append_right _ ((Table.mem_keys_iff_find? _ _).2 ⟨r, found⟩)
  have bound := (List.subperm_of_subset (h.nodup acyclic) subset).length_le
  have one : d.program?.toList.length ≤ 1 := by cases d.program? <;> simp
  rw [List.length_append] at bound
  rw [Routines.depth]
  omega

/-! ## What starts keep -/

/-- Runs of the program end and do not start other runs. -/
structure Tame (d : Debugger) : Prop where
  nested : Nested d
  acyclic : Acyclic d
  startsNoRun : StartsNoRun d

theorem program?_congr (loads : e.loads = d.loads) : e.program? = d.program? := by
  simp only [program?, loads]

/-- The lines and the program decide about recursion and about runs within runs. -/
theorem Tame.of_nested (h : Tame d) (nested : Nested e)
    (lines : ∀ id, (e.routines.routine id).lines = (d.routines.routine id).lines)
    (loads : e.loads = d.loads) : Tame e := by
  refine ⟨nested, ?_, ?_, ?_⟩
  · have calls : e.Calls = d.Calls := by
      funext f g
      simp only [Calls, lines]
    unfold Acyclic
    rw [calls]
    exact h.acyclic
  · intro id program
    rw [lines]
    exact h.startsNoRun.program id (program?_congr loads ▸ program)
  · intro name
    rw [lines]
    exact h.startsNoRun.functions name

theorem Tame.congr (h : Tame d) (routines : e.routines = d.routines) (loads : e.loads = d.loads) :
    Tame e := by
  have links : e.Links = d.Links := by
    funext upper lower
    simp only [Links, routines]
  refine h.of_nested ⟨?_, ?_⟩ (fun id => by rw [routines]) loads
  · rw [routines, links]
    exact h.nested.linked
  · rw [routines, program?_congr loads]
    exact h.nested.frames

/-- Functions that are known stay known when a routine changes. -/
theorem frames_of_modify {stack : List RoutineId} {change : Routine → Routine}
    (frames : ∀ j ∈ stack, d.program? = some j ∨
      ∃ name r, j = .function name ∧ d.routines.known.find? j = some r) :
    ∀ j ∈ stack, d.program? = some j ∨
      ∃ name r, j = .function name ∧ (d.routines.modify id change).known.find? j = some r := by
  intro j member
  obtain program | ⟨name, r, rfl, found⟩ := frames j member
  · exact .inl program
  · refine .inr ⟨name, ?_⟩
    rw [Routines.modify, Table.find?_modify, found]
    split
    · exact ⟨_, rfl, rfl⟩
    · exact ⟨r, rfl, rfl⟩

theorem Nested.tick (h : Nested d) (tick : d.tick = (d', t)) : Nested d' := by
  have links : d'.Links = d.Links := by
    funext upper lower
    simp only [Links, lines_tick tick]
  have shifts := tick_shifts tick
  have program := program?_congr (loads_tick tick)
  generalize routines : d'.routines = rs at shifts
  refine ⟨?_, ?_⟩
  · rw [links, routines]
    cases shifts with
    | stay | advance | skip => exact h.linked
    | leave => exact h.linked.tail
    | @call id rest line name stack inside pending _ callee =>
      change (.function name :: d.routines.stack).IsChain _
      refine h.linked.cons fun lower top => ?_
      rw [stack, List.head?_cons, Option.mem_some_iff] at top
      subst top
      exact ⟨name, rfl, line, Routine.mem_of_statement? pending, callee⟩
  · rw [program, routines]
    cases shifts with
    | stay => exact h.frames
    | advance | skip => exact frames_of_modify h.frames
    | leave =>
      exact frames_of_modify fun j member => h.frames j (List.mem_of_mem_tail member)
    | @call id rest line name stack inside pending _ callee known =>
      refine frames_of_modify fun j member => ?_
      obtain rfl | member := List.mem_cons.1 member
      · obtain ⟨r, found⟩ := known
        exact .inr ⟨name, r, rfl, found⟩
      · exact h.frames j member

theorem Tame.tick (h : Tame d) (tick : d.tick = (d', t)) : Tame d' :=
  h.of_nested (h.nested.tick tick) (lines_tick tick) (loads_tick tick)

theorem Tame.entered (h : Tame d) (entered : d.entered? = some e) : Tame e := by
  obtain ⟨id, empty, program, rfl⟩ | ⟨-, rfl⟩ := entered_cases entered
  · refine h.of_nested ⟨?_, ?_⟩ (fun _ => rfl) rfl
    · change (id :: d.routines.stack).IsChain _
      rw [empty]
      exact .singleton _
    · intro j member
      change j ∈ id :: d.routines.stack at member
      rw [empty, List.mem_singleton] at member
      exact .inl (member ▸ program)
  · exact h

theorem Tame.ends (h : Tame d) (ends : Ends mode d d' o) : Tame d' :=
  ends.keeps h (fun kept alike => kept.congr alike.routines alike.loads) Tame.entered Tame.tick

/-! ## A micro-step makes the stack lighter -/

theorem Shifts.weight_lt {base height : Nat} {rs : Routines RoutineId} (h : Shifts d rs t)
    (moved : t.Moved) (fits : d.routines.Fits base) (once : d.routines.stack.Nodup)
    (once' : rs.stack.Nodup) (room : rs.stack.length ≤ height) :
    rs.weightOf base height rs.stack < d.routines.weightOf base height d.routines.stack := by
  cases h with
  | stay still => exact absurd moved still
  | @leave id rest stack =>
    have alone : id ∉ rest := (List.nodup_cons.1 (stack ▸ once)).1
    have others : ((d.routines.modify id Routine.rewind).pop).weightOf base height rest =
        d.routines.weightOf base height rest :=
      Routines.weightOf_congr (Routines.routine_modify_of_notMem alone _)
    have positive := fits.pow_pos (height - (rest.length + 1))
    rw [Routines.stack_pop_modify stack, others, stack, Routines.weightOf, Nat.add_mul, Nat.one_mul]
    omega
  | @advance id rest line stack inside pending =>
    have alone : id ∉ rest := (List.nodup_cons.1 (stack ▸ once)).1
    change (d.routines.modify id Routine.advance).weightOf base height d.routines.stack < _
    rw [stack]
    exact fits.weightOf_modify_lt alone (Routines.find?_of_inside inside)
      (Routine.remaining_advance (Routine.pointer_lt_of_statement? pending))
  | @skip id rest line stack inside pending =>
    have alone : id ∉ rest := (List.nodup_cons.1 (stack ▸ once)).1
    change (d.routines.modify id fun _ => (d.routines.routine id).pastBody).weightOf base height
      d.routines.stack < _
    rw [stack]
    exact fits.weightOf_modify_lt alone (Routines.find?_of_inside inside)
      (Routine.remaining_pastBody (Routine.pointer_lt_of_statement? pending))
  | @call id rest line name stack inside pending =>
    have pushed : ((d.routines.push (.function name)).modify id Routine.advance).stack =
        .function name :: id :: rest := by
      change .function name :: d.routines.stack = _
      rw [stack]
    rw [pushed] at once' room
    have other : .function name ≠ id := fun same =>
      (List.nodup_cons.1 once').1 (same ▸ List.mem_cons_self)
    have below := d.routines.weightOf_modify_le base height (List.nodup_cons.1 (stack ▸ once)).1
      (Routines.find?_of_inside inside) Routine.advance
      (Routine.remaining_advance (Routine.pointer_lt_of_statement? pending))
    have top := fits.weight_lt_line (.function name) room
    have same : ((d.routines.push (.function name)).modify id Routine.advance).weightOf base height
        (.function name :: id :: rest) = (d.routines.modify id Routine.advance).weightOf base height
        (.function name :: id :: rest) := Routines.weightOf_congr fun _ _ => rfl
    rw [pushed, same, stack, Routines.weightOf, Routines.routine_modify_of_ne other]
    omega

theorem Shifts.fits {base : Nat} {rs : Routines RoutineId} (h : Shifts d rs t)
    (fits : d.routines.Fits base) : rs.Fits base := by
  cases h with
  | stay => exact fits
  | leave => exact fits.modify rfl (by rw [Routine.remaining_rewind]; exact (fits _).2)
  | @advance id _ _ _ _ pending | @call id _ _ _ _ _ pending =>
    have lighter := Routine.remaining_advance (Routine.pointer_lt_of_statement? pending)
    exact fits.modify rfl (by have := (fits id).1; omega)
  | @skip id _ _ _ _ pending =>
    have lighter := Routine.remaining_pastBody (Routine.pointer_lt_of_statement? pending)
    exact fits.modify rfl (by have := (fits id).1; omega)

/-! ## Every start ends -/

/-- Every frame is that of the program or of a function, so no statement starts a run. -/
theorem Tame.failure_ne_endlessRun (h : Tame d) (tick : d.tick = (d', .failed f)) :
    f ≠ .crash .endlessRun := by
  have moves := tick ▸ tick_moves d
  cases moves with
  | astray => simp
  | fail id rest line f stack inside pending failed =>
    have free : StartFree (d.routines.routine id).lines := by
      obtain program | ⟨name, -, rfl, -⟩ := h.nested.frames id (stack ▸ List.mem_cons_self)
      · exact h.startsNoRun.program id program
      · exact h.startsNoRun.functions name
    have other := commandOf?_ne_resume (free line (Routine.mem_of_statement? pending))
    obtain ⟨passed, skipped, -⟩ := skipBody_of_statement? stack pending
    have effect := execute_effect d line
    generalize d.execute line = reply at effect failed
    cases effect with
    | refuse | tooLong => cases failed; simp
    | skipBody =>
      rw [skipped] at failed
      cases failed
    | resume mode args parsed => exact absurd (commandOf?_of_parse parsed) (other mode)
    | _ => cases failed

/-- From every state there is an end: each micro-step leaves less to do. -/
theorem Tame.exists_runs (h : Tame d) (mode : RunMode) (depth : Nat) :
    ∃ d' o, Runs mode depth d d' o ∧ o ≠ .error (.crash .endlessRun) := by
  obtain ⟨base, fits⟩ := d.routines.exists_fits
  generalize room : d.routines.known.keys.length + 1 = height
  generalize weight : d.routines.weightOf base height d.routines.stack = n
  induction n using Nat.strong_induction_on generalizing d with
  | _ n ih =>
    rcases tick : d.tick with ⟨next, t⟩
    have later := h.tick tick
    have shifts := tick_shifts tick
    have space : next.routines.stack.length ≤ height := by
      rw [← room, ← shifts.keys]
      exact later.nested.depth_le later.acyclic
    cases pause : next.stop? mode depth t with
    | some reason => exact ⟨next, .ok reason, .stop tick pause, by simp⟩
    | none =>
      have more (moved : t.Moved) :
          ∃ d' o, Runs mode depth d d' o ∧ o ≠ .error (.crash .endlessRun) := by
        have lighter := shifts.weight_lt moved fits (h.nested.nodup h.acyclic)
          (later.nested.nodup later.acyclic) space
        obtain ⟨d', o, runs, definite⟩ :=
          ih _ (weight ▸ lighter) later (shifts.fits fits) (shifts.keys ▸ room) rfl
        exact ⟨d', o, .more tick moved pause runs, definite⟩
      cases t with
      | idle => cases pause
      | failed f =>
        refine ⟨next, .error f, .fail tick, fun same => ?_⟩
        cases same
        exact h.failure_ne_endlessRun tick rfl
      | returned | executed id => exact more trivial

theorem Tame.exists_ends (h : Tame d) (mode : RunMode) :
    ∃ d' o, Ends mode d d' o ∧ o ≠ .error (.crash .endlessRun) := by
  cases entered : d.entered? with
  | none =>
    exact ⟨d, .error (.fault .noProgram), (ends_iff_of_entered_none entered).2 ⟨rfl, rfl⟩, by simp⟩
  | some e =>
    obtain ⟨last, o, runs, definite⟩ :=
      ((h.entered entered).congr rfl rfl : Tame (e.begun mode)).exists_runs mode e.routines.depth
    exact ⟨last.ended o, o, (ends_iff_runs entered).2 ⟨last, runs, rfl⟩, definite⟩

/-- Starts with modes and breakpoints of one's choice lead from the first debugger to the second,
however each of them ends. -/
inductive Resumes (d : Debugger) : Debugger → Prop
  | refl : Resumes d d
  | start {x y : Debugger} {r : Resumption} {o : Outcome} (before : Resumes d x)
      (ends : Ends r.mode (x.withBreakpoints r.breakpoints) y o) : Resumes d y

theorem Tame.withBreakpoints (h : Tame d) (breakpoints : List Int) :
    Tame (d.withBreakpoints breakpoints) :=
  h.congr rfl rfl

theorem Tame.resumes (h : Tame d) (resumes : Resumes d x) : Tame x := by
  induction resumes with
  | refl => exact h
  | start _ ends ih => exact (ih.withBreakpoints _).ends ends

/-- If no function calls itself, directly or through others, and no line of the program or of a
function starts a run, then from an empty stack on every start ends, however those before it have
ended. -/
theorem starts_end_of_acyclic (empty : d.routines.stack = []) (acyclic : d.Acyclic)
    (free : d.StartsNoRun) (later : Resumes d x) (mode : RunMode) (breakpoints : List Int) :
    ∃ x' o, Ends mode (x.withBreakpoints breakpoints) x' o ∧ o ≠ .error (.crash .endlessRun) := by
  have nested : Nested d := by
    constructor
    · rw [empty]
      exact .nil
    · simp [empty]
  have tame := Tame.resumes ⟨nested, acyclic, free⟩ later
  exact (tame.withBreakpoints breakpoints).exists_ends mode

/-- Functions that can be ranked so that every call goes to a lower rank have no recursion. -/
theorem acyclic_of_rank (rank : RoutineId → Nat)
    (falls : ∀ e ∈ d.routines.known.entries, ∀ line ∈ e.2.lines, ∀ g ∈ callee? line,
      rank (.function g) < rank e.1) : d.Acyclic := by
  have lower {f g : String} (calls : d.Calls f g) : rank (.function g) < rank (.function f) := by
    obtain ⟨line, member, callee⟩ := calls
    unfold Routines.routine at member
    cases found : d.routines.known.find? (.function f) with
    | none =>
      rw [found] at member
      cases member
    | some r =>
      rw [found] at member
      exact falls _ (Table.mem_entries_of_find? found) line member g callee
  intro f cycle
  have below : ∀ {g}, Relation.TransGen d.Calls f g → rank (.function g) < rank (.function f) := by
    intro g reaches
    induction reaches with
    | single calls => exact lower calls
    | tail _ calls ih => exact (lower calls).trans ih
  exact Nat.lt_irrefl _ (below cycle)

/-- A program whose functions call one another, and whose last line is faulty. -/
def relay : Debugger :=
  (load "def f\n    sub a 2\ndef g\n    call f\n    call f\nset a 9\ncall g\nprint b" {}).state

/-- After a pause in the inner function and a fault in the program, another start ends. -/
theorem relay_starts_end :
    ∃ x, Resumes relay x ∧ x.routines.stack ≠ [] ∧
      ∃ x' o, Ends .step (x.withBreakpoints [5]) x' o ∧ o ≠ .error (.crash .endlessRun) := by
  have acyclic : relay.Acyclic :=
    acyclic_of_rank
      (fun id => if id = .function "f" then 0 else if id = .function "g" then 1 else 2)
      (by decide +kernel)
  have free : NeverRestarts relay :=
    NeverRestarts.load (fun id line member => by cases member) (by decide +kernel)
  obtain ⟨empty, pauses, faults, framed⟩ : relay.routines.stack = [] ∧
      ((relay.withBreakpoints [4]).start 40 .run).result ≠ .error .unfinished ∧
      ((((relay.withBreakpoints [4]).start 40 .run).state.withBreakpoints []).start 40
        .run).result ≠ .error .unfinished ∧
      ((((relay.withBreakpoints [4]).start 40 .run).state.withBreakpoints []).start 40
        .run).state.routines.stack ≠ [] := by
    decide +kernel
  have paused := Resumes.refl.start (r := ⟨.run, [4]⟩) (ends_of_start 40 pauses)
  have faulted := paused.start (r := ⟨.run, []⟩) (ends_of_start 40 faults)
  exact ⟨_, faulted, framed, starts_end_of_acyclic empty acyclic
    ⟨fun id _ => free id, fun name => free _⟩ faulted .step [5]⟩

end Debugger

end LineLang
