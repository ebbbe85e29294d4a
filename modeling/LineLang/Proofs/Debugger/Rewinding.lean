import LineLang.Proofs.Debugger.Loading
import LineLang.Proofs.Debugger.Moments
import LineLang.Proofs.Debugger.Shifts
import Mathlib.Control.Monad.Basic

/-!
# Routines that do not run are rewound

A pointer moves only while its routine has a frame, and is put back when the frame is taken away. So
a routine without a frame is on its first statement (`Rewound`), at every moment of every session
(`idle_routines_are_rewound`). A routine that has several frames is put back when the first of them
goes; what is said here is about the time when they are all gone.
-/

namespace LineLang

namespace Routines

variable {κ : Type} [DecidableEq κ] {rs : Routines κ} {k : κ}

/-- A routine that is put back is on its first statement, as one that is not known is. -/
theorem pointer_rewind (rs : Routines κ) (k : κ) :
    ((rs.modify k Routine.rewind).routine k).pointer = 0 := by
  cases found : rs.known.find? k with
  | none =>
    rw [routine, modify, Table.find?_modify, if_pos rfl, found]
    rfl
  | some r =>
    rw [routine_modify_self found]
    rfl

/-- Every routine that is not running is on its first statement. -/
def Rewound (rs : Routines κ) : Prop :=
  ∀ k, k ∉ rs.stack → (rs.routine k).pointer = 0

namespace Rewound

/-- A routine that is running may change. -/
theorem modify (h : Rewound rs) (running : k ∈ rs.stack) (change : Routine → Routine) :
    Rewound (rs.modify k change) := by
  intro j off
  have other : j ≠ k := fun same => off (same ▸ running)
  exact (congrArg Routine.pointer (routine_modify_of_ne other)).trans (h j off)

theorem push (h : Rewound rs) (k : κ) : Rewound (rs.push k) :=
  fun j off => h j fun on => off (List.mem_cons_of_mem _ on)

theorem leave (h : Rewound rs) {rest : List κ} (stack : rs.stack = k :: rest) :
    Rewound (rs.modify k Routine.rewind).pop := by
  intro j off
  by_cases last : j = k
  · subst last
    exact rs.pointer_rewind j
  · rw [stack_pop_modify stack] at off
    have kept : (rs.modify k Routine.rewind).routine j = rs.routine j := routine_modify_of_ne last
    refine (congrArg Routine.pointer kept).trans (h j fun on => ?_)
    rw [stack] at on
    exact (List.mem_cons.1 on).elim last off

end Rewound

end Routines

namespace Debugger

variable {d d' e x : Debugger} {t : Tick} {id : RoutineId} {allowed : Debugger → String → Prop}
  {history : List Debugger}

/-- Every routine that is not running is on its first statement. -/
def Rewound (d : Debugger) : Prop :=
  d.routines.Rewound

namespace Rewound

theorem congr (h : Rewound d) (routines : e.routines = d.routines) : Rewound e := by
  rw [Rewound, routines]
  exact h

theorem tick (h : Rewound d) (tick : d.tick = (d', t)) : Rewound d' := by
  have shifts := tick_shifts tick
  rw [Rewound]
  generalize d'.routines = rs at shifts
  cases shifts with
  | stay => exact h
  | leave stack => exact Routines.Rewound.leave h stack
  | advance stack | skip stack =>
    exact Routines.Rewound.modify h (by rw [stack]; exact List.mem_cons_self) _
  | @call id rest line name stack =>
    exact (Routines.Rewound.push h (.function name)).modify
      (List.mem_cons_of_mem _ (by rw [stack]; exact List.mem_cons_self)) _

theorem entered (h : Rewound d) (entered : d.entered? = some e) : Rewound e := by
  obtain ⟨id, -, -, rfl⟩ | ⟨-, rfl⟩ := entered_cases entered
  · exact Routines.Rewound.push h id
  · exact h

/-- What is loaded is on its first statement. -/
theorem load (h : Rewound d) (payload : String) : Rewound (d.load payload).state := by
  have added := load_extends d payload
  intro id off
  rw [added.stack] at off
  obtain same | new := added.routine_cases id
  · rw [same]
    exact h id off
  · exact new.foundIn.start

theorem execute (h : Rewound d) (line : String) : Rewound (d.execute line).state := by
  obtain same | ⟨-, skipped⟩ | ⟨-, name, r, -, pushed⟩ := (execute_effect d line).routines_cases
  · exact h.congr same
  · rw [skipped, Debugger.skipBody]
    cases stack : d.routines.stack with
    | nil => simpa [Routines.top?, stack, Reply.ok] using h
    | cons id rest =>
      rw [Routines.top?, stack, List.head?_cons]
      exact Routines.Rewound.modify h (by rw [stack]; exact List.mem_cons_self) _
  · rw [pushed]
    exact Routines.Rewound.push h (.function name)

end Rewound

/-- Whatever is typed, routines that do not run are rewound. -/
theorem rewound_invariant : SessionInvariant allowed fun _ => Rewound where
  congr h alike _ := h.congr alike.routines
  tick h tick := h.tick tick
  enter h entered := h.entered entered
  load text h := h.load text
  execute h _ _ := h.execute _

/-! ## Every routine has one entry -/

theorem keys_execute (d : Debugger) (line : String) :
    (d.execute line).state.routines.known.keys = d.routines.known.keys := by
  obtain same | ⟨-, skipped⟩ | ⟨-, name, r, -, pushed⟩ := (execute_effect d line).routines_cases
  · rw [same]
  · rw [skipped, Debugger.skipBody]
    split
    · rfl
    · exact Table.keys_modify _ _ _
  · rw [pushed]
    rfl

/-- Whatever is typed, no two routines are known under one key. -/
theorem distinct_invariant :
    SessionInvariant allowed fun _ d => d.routines.known.keys.Nodup where
  congr h alike _ := by
    rw [alike.routines]
    exact h
  tick h tick := by
    rw [(tick_shifts tick).keys]
    exact h
  enter h entered := by
    obtain ⟨id, -, -, rfl⟩ | ⟨-, rfl⟩ := entered_cases entered
    · exact h
    · exact h
  load text h := nodup_keys_load h text
  execute h _ _ := by
    rw [keys_execute]
    exact h

/-! ## Sessions -/

/-- At every moment of a session, whatever was typed and however the lines before have ended, each
routine that has no frame is on its first statement: functions, the program of the next start and
programs that were replaced. When there is no frame at all, every routine is. -/
theorem idle_routines_are_rewound {strict : Bool}
    (seen : Sees (fun _ _ => True) { strict } history x) :
    (∀ e ∈ x.routines.known.entries, e.1 ∉ x.routines.stack → e.2.pointer = 0) ∧
    (∀ id, x.program? = some id → id ∉ x.routines.stack → (x.routines.routine id).pointer = 0) ∧
    (x.routines.stack = [] → ∀ e ∈ x.routines.known.entries, e.2.pointer = 0) := by
  have rewound : Rewound x := seen.holds rewound_invariant fun _ _ => rfl
  have distinct : x.routines.known.keys.Nodup :=
    seen.holds distinct_invariant (by exact List.nodup_nil)
  have entries : ∀ e ∈ x.routines.known.entries, e.1 ∉ x.routines.stack → e.2.pointer = 0 := by
    intro e member off
    rw [← routine_of_find? (Table.find?_of_mem_entries distinct member)]
    exact rewound e.1 off
  refine ⟨entries, fun id _ off => rewound id off, fun empty e member => entries e member ?_⟩
  rw [empty]
  exact List.not_mem_nil

/-- A program comes upon a statement that starts a run, which never ends. A function that calls
itself is called in its place, a header is typed when the inner call has ended, and another script
is loaded. -/
def entangledLines : List String :=
  ["set code",
    "\n".intercalate ["def f", "    call f", "    set a 1", "def g", "    print a", "run"],
    "end set code", "run", "call f", "step", "step", "def h", "set code", "call g"]

/-- Two of the lines crash. The first program and the function, which has two frames, are in the
midst of their lines; the other function and the second program are on their first. -/
theorem entangled_rewound :
    (∃ t ∈ session 10 entangledLines {}, t.answer = .error (.crash .endlessRun)) ∧
    (∃ t ∈ session 10 entangledLines {}, t.answer = .error (.crash .noStatement)) ∧
    ∃ history x, Sees (fun _ _ => True) {} history x ∧ x = afterSession 10 entangledLines {} ∧
      x.routines.stack = [.function "f", .function "f", .program 0] ∧
      x.routines.known.values.map Routine.pointer = [3, 0, 5, 0] ∧
      (x.routines.routine (.program 1)).pointer = 0 ∧
      ∀ e ∈ x.routines.known.entries, e.1 ∉ x.routines.stack → e.2.pointer = 0 := by
  obtain ⟨definite, endless, beyond⟩ :
      (∀ t ∈ session 10 entangledLines {}, t.answer ≠ .error .unfinished) ∧
      (∃ t ∈ session 10 entangledLines {}, t.answer = .error (.crash .endlessRun)) ∧
      ∃ t ∈ session 10 entangledLines {}, t.answer = .error (.crash .noStatement) := by
    decide +kernel
  have rests : Rests (fun _ _ => True) {} _ _ := Rests.fresh.session definite fun _ _ => trivial
  obtain ⟨stack, pointers, program, off⟩ :
      (afterSession 10 entangledLines {}).routines.stack =
        [.function "f", .function "f", .program 0] ∧
      (afterSession 10 entangledLines {}).routines.known.values.map Routine.pointer =
        [3, 0, 5, 0] ∧
      (afterSession 10 entangledLines {}).program? = some (.program 1) ∧
      .program 1 ∉ (afterSession 10 entangledLines {}).routines.stack := by decide +kernel
  obtain ⟨entries, programs, -⟩ := idle_routines_are_rewound (.between rests)
  exact ⟨endless, beyond, _, _, .between rests, rfl, stack, pointers, programs _ program off,
    entries⟩

end Debugger

end LineLang
