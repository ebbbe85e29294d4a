import LineLang.Proofs.Debugger.Moments
import LineLang.Proofs.Debugger.Pointers
import LineLang.Proofs.Debugger.Shifts
import Mathlib.Data.List.Chain

/-!
# The trace names the call sites

The trace of active calls is made up from the pointers when it is asked for; nothing is noted when a
call is made. It is right all the same (`trace_names_call_sites`): if frames come by calls of the
program only, and no routine has two frames, then the statement before the pointer of every caller
is the call that put the frame above it on the stack.

What was called is known from the history: `activeCalls` goes through the micro-steps that were made
and keeps a list of the calls that have not returned. `Sited` says that the stack agrees with it.
-/

namespace LineLang

/-! ## Traces of a stack -/

namespace Routines

variable {κ : Type} [DecidableEq κ] {rs rs' : Routines κ} {a b : κ} {stack : List κ}

/-- The trace of a stack whose top is not that of the running routines. -/
def traceOf (rs : Routines κ) (stack : List κ) : List (Int × String) :=
  stack.zipWith (fun callee caller => ((rs.routine caller).position - 1, (rs.routine callee).name))
    stack.tail

theorem trace_eq_traceOf (rs : Routines κ) : rs.trace = rs.traceOf rs.stack := by
  rw [trace, running, ← List.map_tail, List.zipWith_map]
  rfl

theorem traceOf_cons_cons (rs : Routines κ) (a b : κ) (rest : List κ) :
    rs.traceOf (a :: b :: rest) =
      ((rs.routine b).position - 1, (rs.routine a).name) :: rs.traceOf (b :: rest) :=
  rfl

theorem traceOf_tail (rs : Routines κ) (stack : List κ) :
    rs.traceOf stack.tail = (rs.traceOf stack).tail := by
  match stack with
  | [] | [_] | _ :: _ :: _ => rfl

/-- A trace depends on the names, and on the pointers of all frames but the top. -/
theorem traceOf_congr (names : ∀ id ∈ stack, (rs'.routine id).name = (rs.routine id).name)
    (callers : ∀ id ∈ stack.tail, rs'.routine id = rs.routine id) :
    rs'.traceOf stack = rs.traceOf stack := by
  induction stack with
  | nil => rfl
  | cons a rest ih =>
    cases rest with
    | nil => rfl
    | cons b rest =>
      rw [traceOf_cons_cons, traceOf_cons_cons, names a List.mem_cons_self,
        callers b List.mem_cons_self, ih (fun id member => names id (List.mem_cons_of_mem _ member))
          fun id member => callers id (List.mem_cons_of_mem _ member)]

theorem length_traceOf (rs : Routines κ) (stack : List κ) :
    (rs.traceOf stack).length = stack.length - 1 := by
  simp [traceOf]

end Routines

namespace Debugger

variable {d d' e x y : Debugger} {t : Tick} {id : RoutineId} {history later : List Debugger}
  {stack : List RoutineId}

/-! ## Keys -/

/-- Functions are known by their names, and programs by the numbers of the loads so far. -/
structure Registered (d : Debugger) : Prop where
  named : ∀ name, .function name ∈ d.routines.known.keys →
    (d.routines.routine (.function name)).name = name
  numbered : ∀ n, .program n ∈ d.routines.known.keys → n < d.loads

namespace Registered

theorem congr (h : Registered d) (routines : e.routines = d.routines) (loads : e.loads = d.loads) :
    Registered e := by
  refine ⟨?_, ?_⟩
  · rw [routines]
    exact h.named
  · rw [routines, loads]
    exact h.numbered

theorem tick (h : Registered d) (tick : d.tick = (d', t)) : Registered d' := by
  have keys := (tick_shifts tick).keys
  refine ⟨fun name known => ?_, fun n known => ?_⟩
  · rw [name_tick tick]
    exact h.named name (keys ▸ known)
  · rw [loads_tick tick]
    exact h.numbered n (keys ▸ known)

theorem entered (h : Registered d) (entered : d.entered? = some e) : Registered e := by
  obtain ⟨id, -, -, rfl⟩ | ⟨-, rfl⟩ := entered_cases entered
  · exact ⟨h.named, h.numbered⟩
  · exact h

theorem load (h : Registered d) (payload : String) : Registered (d.load payload).state := by
  have added := load_extends d payload
  refine ⟨fun name known => ?_, fun n known => ?_⟩
  · obtain ⟨r, found⟩ := (Table.mem_keys_iff_find? _ _).1 known
    rw [routine_of_find? found]
    obtain before | new := added.added _ r found
    · rw [← routine_of_find? before]
      exact h.named name ((Table.mem_keys_iff_find? _ _).2 ⟨r, before⟩)
    · cases new
      rfl
  · obtain ⟨r, found⟩ := (Table.mem_keys_iff_find? _ _).1 known
    rw [loads_load]
    obtain before | new := added.added _ r found
    · have lt := h.numbered n ((Table.mem_keys_iff_find? _ _).2 ⟨r, before⟩)
      split
      · exact lt
      · exact Nat.lt_succ_of_lt lt
    · cases new with
      | program scanned =>
        rw [scanned]
        exact Nat.lt_succ_self _

end Registered

/-! ## Calls that have not returned -/

/-- The active calls after a micro-step. A call comes on top, with the position of its statement; a
frame that is taken away takes its call with it, if it has come by one. -/
def callsAfter (calls : List (Int × String)) (d : Debugger) : List (Int × String) :=
  match d.tick.2 with
  | .returned => calls.tail
  | .executed id =>
    match d.pending?.bind callee? with
    | some name => ((d.routines.routine id).position, name) :: calls
    | none => calls
  | .idle | .failed _ => calls

/-- The calls among the micro-steps so far that have not returned, topmost first. -/
def activeCalls (history : List Debugger) : List (Int × String) :=
  history.foldl callsAfter []

theorem activeCalls_append (history : List Debugger) (d : Debugger) :
    activeCalls (history ++ [d]) = callsAfter (activeCalls history) d := by
  rw [activeCalls, List.foldl_append]
  rfl

theorem activeCalls_of_still (tick : x.tick = (y, t)) (still : ¬ t.Moved) :
    activeCalls (history ++ [x]) = activeCalls history := by
  rw [activeCalls_append, callsAfter, tick]
  cases t with
  | idle | failed f => rfl
  | returned | executed id => exact absurd trivial still

theorem activeCalls_of_returned (tick : x.tick = (y, .returned)) :
    activeCalls (history ++ [x]) = (activeCalls history).tail := by
  rw [activeCalls_append, callsAfter, tick]

theorem activeCalls_of_executed {rest : List RoutineId} {line : String}
    (tick : x.tick = (y, .executed id)) (stack : x.routines.stack = id :: rest)
    (inside : (x.routines.routine id).atEnd = false)
    (pending : (x.routines.routine id).statement? = some line) :
    activeCalls (history ++ [x]) =
      match callee? line with
      | some name => ((x.routines.routine id).position, name) :: activeCalls history
      | none => activeCalls history := by
  rw [activeCalls_append, callsAfter, tick]
  dsimp only
  rw [pending?_of_stack stack inside, pending, Option.bind_some]

/-! ## The stack agrees with the history -/

/-- The upper routine is a function, and the statement before the pointer of the lower one calls
it. -/
def CalledFrom (d : Debugger) (upper lower : RoutineId) : Prop :=
  ∃ (name line : String) (i : Nat), upper = .function name ∧ callee? line = some name ∧
    (d.routines.routine lower).pointer = i + 1 ∧ (d.routines.routine lower).lines[i]? = some line

/-- Every frame was put on the stack by the call before the pointer of the one below, and the trace
lists the active calls. -/
structure Sited (history : List Debugger) (x : Debugger) : Prop where
  sites : x.routines.stack.IsChain x.CalledFrom
  calls : x.routines.trace = activeCalls history

/-- The pointer of the top frame may change. -/
theorem sites_of_callers (chain : stack.IsChain x.CalledFrom)
    (callers : ∀ id ∈ stack.tail, y.routines.routine id = x.routines.routine id) :
    stack.IsChain y.CalledFrom := by
  refine chain.imp_of_mem_tail_imp fun upper lower _ member called => ?_
  unfold CalledFrom
  rw [callers lower member]
  exact called

namespace Sited

/-- Nothing but the pointer of the top frame has changed, and no call was made or has returned. -/
theorem of_callers (h : Sited history x) (stack : y.routines.stack = x.routines.stack)
    (names : ∀ id ∈ x.routines.stack, (y.routines.routine id).name = (x.routines.routine id).name)
    (callers : ∀ id ∈ x.routines.stack.tail, y.routines.routine id = x.routines.routine id)
    (calls : activeCalls later = activeCalls history) : Sited later y := by
  refine ⟨?_, ?_⟩
  · rw [stack]
    exact sites_of_callers h.sites callers
  · rw [calls, ← h.calls, Routines.trace_eq_traceOf, Routines.trace_eq_traceOf, stack,
      Routines.traceOf_congr names callers]

theorem congr (h : Sited history x) (routines : y.routines = x.routines) : Sited history y := by
  refine h.of_callers ?_ ?_ ?_ rfl <;> simp [routines]

/-- The frame above goes, and its call with it. -/
theorem returned {rest : List RoutineId} (h : Sited history x) (once : x.routines.stack.Nodup)
    (stack : x.routines.stack = id :: rest) (tick : x.tick = (y, .returned))
    (left : y.routines = (x.routines.modify id Routine.rewind).pop) : Sited (history ++ [x]) y := by
  have alone : id ∉ rest := (List.nodup_cons.1 (stack ▸ once)).1
  have callers : ∀ j ∈ rest, y.routines.routine j = x.routines.routine j := by
    rw [left]
    exact Routines.routine_modify_of_notMem alone Routine.rewind
  have popped : y.routines.stack = rest := by
    rw [left]
    exact Routines.stack_pop_modify stack Routine.rewind
  refine ⟨?_, ?_⟩
  · rw [popped]
    exact sites_of_callers (stack ▸ h.sites).tail fun j member =>
      callers j (List.mem_of_mem_tail member)
  · rw [activeCalls_of_returned tick, ← h.calls, Routines.trace_eq_traceOf,
      Routines.trace_eq_traceOf, ← Routines.traceOf_tail, popped, stack, List.tail_cons]
    refine Routines.traceOf_congr (fun j member => ?_) fun j member => ?_
    · rw [callers j member]
    · exact callers j (List.mem_of_mem_tail member)

/-- The top frame moves on without a call. -/
theorem executed {rest : List RoutineId} {line : String} (h : Sited history x)
    (once : x.routines.stack.Nodup) (stack : x.routines.stack = id :: rest)
    (inside : (x.routines.routine id).atEnd = false)
    (pending : (x.routines.routine id).statement? = some line) (other : callee? line = none)
    (tick : x.tick = (y, .executed id)) {change : Routine → Routine}
    (moved : y.routines = x.routines.modify id change) : Sited (history ++ [x]) y := by
  have alone : id ∉ rest := (List.nodup_cons.1 (stack ▸ once)).1
  refine h.of_callers ?_ (fun id _ => name_tick tick id) ?_ ?_
  · rw [moved]
    rfl
  · rw [stack, moved]
    exact Routines.routine_modify_of_notMem alone change
  · rw [activeCalls_of_executed tick stack inside pending, other]

/-- The pointer of the caller is moved past the call, so the call stands before it. -/
theorem called {rest : List RoutineId} {line name : String} (h : Sited history x)
    (order : InOrder x) (registered : Registered x) (once : x.routines.stack.Nodup)
    (stack : x.routines.stack = id :: rest) (inside : (x.routines.routine id).atEnd = false)
    (pending : (x.routines.routine id).statement? = some line) (callee : callee? line = some name)
    (known : .function name ∈ x.routines.known.keys) (tick : x.tick = (y, .executed id))
    (pushed : y.routines = (x.routines.push (.function name)).modify id Routine.advance) :
    Sited (history ++ [x]) y := by
  have found := Routines.find?_of_inside inside
  have moved (j : RoutineId) :
      y.routines.routine j = (x.routines.modify id Routine.advance).routine j :=
    congrArg (·.routine j) pushed
  have caller : y.routines.routine id = (x.routines.routine id).advance := by
    rw [moved, Routines.routine_modify_self found]
  have alone : id ∉ rest := (List.nodup_cons.1 (stack ▸ once)).1
  have callers : ∀ j ∈ rest, y.routines.routine j = x.routines.routine j := fun j member =>
    (moved j).trans (Routines.routine_modify_of_notMem alone Routine.advance j member)
  have frames : y.routines.stack = .function name :: id :: rest := by
    rw [pushed, ← stack]
    rfl
  refine ⟨?_, ?_⟩
  · have nonneg : 0 ≤ (x.routines.routine id).pointer := (order.inRange id _ found).1
    rw [frames]
    refine .cons_cons ⟨name, line, (x.routines.routine id).pointer.toNat, rfl, callee, ?_, ?_⟩
      (sites_of_callers (stack ▸ h.sites) callers)
    · rw [caller, Int.toNat_of_nonneg nonneg]
      rfl
    · rw [caller]
      rwa [Routine.statement?, if_pos nonneg] at pending
  · have position : (x.routines.routine id).advance.position - 1 =
        (x.routines.routine id).position := by
      simp only [Routine.position, Routine.advance, Routine.pointAt]
      omega
    rw [activeCalls_of_executed tick stack inside pending, callee, ← h.calls,
      Routines.trace_eq_traceOf, Routines.trace_eq_traceOf, frames, stack,
      Routines.traceOf_cons_cons, name_tick tick, registered.named name known, caller, position]
    exact congrArg _ (Routines.traceOf_congr (fun j _ => name_tick tick j) callers)

theorem tick (h : Sited history x) (order : InOrder x) (registered : Registered x)
    (once : x.routines.stack.Nodup) (tick : x.tick = (y, t)) : Sited (history ++ [x]) y := by
  have shifts := tick_shifts tick
  generalize routines : y.routines = rs at shifts
  cases shifts with
  | stay still =>
    refine h.of_callers ?_ ?_ ?_ (activeCalls_of_still tick still) <;> simp [routines]
  | leave stack => exact h.returned once stack tick routines
  | advance stack inside pending other =>
    exact h.executed once stack inside pending (callee?_eq_none other.2) tick routines
  | skip stack inside pending header =>
    exact h.executed once stack inside pending (callee?_eq_none (by simp [header])) tick routines
  | call stack inside pending _ callee known =>
    have known := (Table.mem_keys_iff_find? _ _).2 known
    exact h.called order registered once stack inside pending callee known tick routines

/-- A program that is put on the stack was called by nobody. -/
theorem entered (h : Sited history x) (entered : x.entered? = some y) : Sited history y := by
  obtain ⟨id, empty, -, rfl⟩ | ⟨-, rfl⟩ := entered_cases entered
  · have calls := h.calls
    rw [Routines.trace_eq_traceOf, empty] at calls
    have alone : (x.onRoutines (·.push id)).routines.stack = [id] := by
      change id :: x.routines.stack = _
      rw [empty]
    refine ⟨?_, ?_⟩
    · rw [alone]
      exact .singleton _
    · rw [Routines.trace_eq_traceOf, alone]
      exact calls
  · exact h

/-- Loading a script leaves the routines on the stack as they are. -/
theorem load (h : Sited history x) (order : InOrder x) (registered : Registered x)
    (payload : String) : Sited history (x.load payload).state := by
  have same : ∀ id ∈ x.routines.stack,
      (x.load payload).state.routines.routine id = x.routines.routine id := by
    intro id running
    obtain ⟨r, found⟩ := order.running id running
    rw [routine_of_find? found, routine_of_find? (find?_load registered.numbered found)]
  refine h.of_callers (load_extends x payload).stack ?_ ?_ rfl
  · intro id running
    rw [same id running]
  · intro id running
    exact same id (List.mem_of_mem_tail running)

end Sited

/-! ## Sessions -/

/-- Neither a call nor a header is typed. -/
def LeavesFrames (d : Debugger) (text : String) : Prop :=
  d.phase ≠ .waiting → commandOf? text ≠ some .call ∧ commandOf? text ≠ some .skipBody

instance (d : Debugger) (text : String) : Decidable (d.LeavesFrames text) :=
  inferInstanceAs (Decidable (_ → _))

/-- A line that leaves the frames alone leaves all routines as they are. -/
theorem LeavesFrames.routines_execute {text : String} (fine : x.LeavesFrames text)
    (ready : x.phase ≠ .waiting) : (x.execute text).state.routines = x.routines := by
  obtain ⟨noCall, noHeader⟩ := fine ready
  obtain same | ⟨header, -⟩ | ⟨call, -⟩ := (execute_effect x text).routines_cases
  · exact same
  · exact absurd header noHeader
  · exact absurd call noCall

/-- Everything about the stack is in order, as long as no routine has had two frames. -/
structure Orderly (history : List Debugger) (x : Debugger) : Prop where
  order : InOrder x
  registered : Registered x
  sited : (∀ y ∈ history, y.routines.stack.Nodup) → Sited history x

theorem orderly_fresh (strict : Bool) : Orderly [] { strict } := by
  refine ⟨inOrder_fresh strict, ⟨?_, ?_⟩, fun _ => ⟨.nil, rfl⟩⟩
  · intro name known
    cases known
  · intro n known
    cases known

theorem orderly_invariant : SessionInvariant LeavesFrames Orderly where
  congr h alike _ := by
    refine ⟨h.order.of_alike alike, h.registered.congr alike.routines alike.loads, fun once => ?_⟩
    exact (h.sited once).congr alike.routines
  tick h tick := by
    refine ⟨h.order.tick tick, h.registered.tick tick, fun once => ?_⟩
    have sited := h.sited fun y member => once y (List.mem_append_left _ member)
    exact sited.tick h.order h.registered (once _ (by simp)) tick
  enter h entered := by
    refine ⟨h.order.entered entered, h.registered.entered entered, fun once => ?_⟩
    exact (h.sited once).entered entered
  load text h := by
    refine ⟨h.order.load text, h.registered.load text, fun once => ?_⟩
    exact (h.sited once).load h.order h.registered text
  execute {_ x text} h fine ready := by
    have routines := fine.routines_execute ready
    have loads := (execute_effect x text).loads_eq
    exact ⟨h.order.congr routines loads, h.registered.congr routines loads,
      fun once => (h.sited once).congr routines⟩

theorem output_of_printTrace {line : String} (command : commandOf? line = some .printTrace) :
    (x.execute line).state.output.toList = x.output.toList ++
      x.routines.trace.map fun (position, name) => toString position ++ " " ++ name := by
  obtain ⟨args, parsed⟩ := parse_of_commandOf? command
  rw [execute_of_parse x parsed]
  exact Record.toList_addAll _ _

/-- If neither a call nor a header is typed and no routine ever has two frames, then the statement
before the pointer of every caller is the call of the frame above it. So what is written as the
trace are the calls that were made and have not returned, topmost first: for each frame but the
lowest one line, with the position of the statement that put it on the stack and the name of its
function. -/
theorem trace_names_call_sites {strict : Bool} (seen : Sees LeavesFrames { strict } history x)
    (once : ∀ y ∈ history, y.routines.stack.Nodup) :
    (∀ above callee caller below, x.routines.stack = above ++ callee :: caller :: below →
      ∃ (i : Nat) (line : String) (args : List String),
        (x.routines.routine caller).pointer = i + 1 ∧
        (x.routines.routine caller).lines[i]? = some line ∧
        vocabulary.parse line = .ok ⟨"call", (x.routines.routine callee).name :: args⟩) ∧
    (activeCalls history).length = x.routines.depth - 1 ∧
    ∀ line, commandOf? line = some .printTrace →
      (x.execute line).state.output.toList = x.output.toList ++
        (activeCalls history).map fun (position, name) => toString position ++ " " ++ name := by
  obtain ⟨order, registered, sited⟩ := seen.holds orderly_invariant (orderly_fresh strict)
  obtain ⟨sites, calls⟩ := sited once
  refine ⟨?_, ?_, ?_⟩
  · intro above callee caller below stack
    rw [stack] at sites
    have called := (List.isChain_append_cons_cons.1 sites).2.1
    obtain ⟨name, line, i, rfl, called, pointer, found⟩ := called
    obtain ⟨args, parsed⟩ := parse_of_callee? called
    obtain ⟨r, known⟩ := order.running (.function name) (by simp [stack])
    have named := registered.named name ((Table.mem_keys_iff_find? _ _).2 ⟨r, known⟩)
    exact ⟨i, line, args, pointer, found, by rw [named]; exact parsed⟩
  · rw [← calls, Routines.trace_eq_traceOf, Routines.length_traceOf, Routines.depth]
  · intro line command
    rw [output_of_printTrace command, calls]

/-- Steps up to a statement that fails in a function called from another, and then a second
script. -/
def nestedLines : List String :=
  ["set code", "\n".intercalate ["def f", "    print a", "def g", "    call f", "call g"],
    "end set code", "step", "step", "step", "step", "step",
    "set code", "\n".intercalate ["def h", "    call f", "call h"], "end set code"]

theorem nested_trace_names_call_sites :
    ∃ history x, Sees LeavesFrames {} history x ∧ (∀ y ∈ history, y.routines.stack.Nodup) ∧
      x.routines.depth = 3 ∧ (x.execute "print trace").state.output.toList =
        ["Variable is not in memory", "3 f", "4 g"] := by
  obtain ⟨definite, fine⟩ :
      (∀ t ∈ session 10 nestedLines {}, t.answer ≠ .error .unfinished) ∧
      ∀ t ∈ session 10 nestedLines {}, t.before.LeavesFrames t.text := by decide +kernel
  have rests : Rests LeavesFrames {} _ _ := Rests.fresh.session definite fine
  obtain ⟨once, depth, written, calls⟩ :
      (∀ y ∈ [] ++ statesOfSession 10 nestedLines {}, y.routines.stack.Nodup) ∧
      (afterSession 10 nestedLines {}).routines.depth = 3 ∧
      (afterSession 10 nestedLines {}).output.toList = ["Variable is not in memory"] ∧
      activeCalls ([] ++ statesOfSession 10 nestedLines {}) = [(3, "f"), (4, "g")] := by
    decide +kernel
  refine ⟨_, _, .between rests, once, depth, ?_⟩
  obtain ⟨-, -, writes⟩ := trace_names_call_sites (.between rests) once
  rw [writes "print trace" (by decide +kernel), written, calls]
  rfl

end Debugger

end LineLang
