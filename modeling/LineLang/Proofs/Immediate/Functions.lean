import LineLang.Proofs.Session.Commands
import LineLang.Proofs.Statement.Repertoire
import LineLang.Proofs.Script.Meaning

/-!
# Functions that stay defined

Whatever a statement does, a function that is defined stays as it is and the stack is the same
afterwards (`dispatch_grows`). The only function that changes is the one whose body is being
collected, and only while no function runs. So a function is settled as soon as its body is
closed (`statements_settled`).
-/

namespace LineLang

/-! ## Definitions after a change -/

namespace Workspace

variable {w : Workspace} {name : String}

theorem isDefined_eq_false_iff : w.isDefined name = false ↔ w.definition name = none := by
  rw [definition, Option.map_eq_none_iff, Table.find?_eq_none_iff, ← Table.contains_iff_mem_keys,
    Bool.not_eq_true]
  rfl

theorem definition_addFunction (w : Workspace) (f : Routine) (name : String) :
    (w.addFunction f).definition name =
      if name = f.name then some f.rewind else w.definition name := by
  simp only [definition, addFunction, Routines.register, Table.find?_insert,
    RoutineId.function.injEq]
  split <;> rfl

end Workspace

/-- The commands of every session leave the routines alone. -/
theorem SessionCommand.routines_of_perform {args : List String} {outside : Option Int}
    {s s' : Session} {c : SessionCommand} (h : c.perform args outside s = .ok s') :
    s'.routines = s.routines := by
  cases c with
  | onVariables c =>
    rw [perform_onVariables] at h
    cases done : c.perform args (s.positionOr outside) s.vars with
    | error f => simp [done, Except.map] at h
    | ok effect =>
      rw [done] at h
      cases h
      rfl
  | setCode =>
    cases h
    exact Session.enter_routines _ _
  | endSetCode =>
    have closed : s.endCode.mapError Failure.fault = .ok s' := h
    cases code : s.endCode with
    | error f => rw [code] at closed; cases closed
    | ok s'' =>
      rw [code] at closed
      cases closed
      exact congrArg Workspace.routines (Session.toWorkspace_of_endCode code)

theorem Reply.andThen_eq_ok {σ α : Type} {r : Reply σ Unit} {next : σ → Reply σ α} {s : σ} {a : α}
    (h : r.andThen next = ⟨s, .ok a⟩) : ∃ s₁, r = ⟨s₁, .ok ()⟩ ∧ next s₁ = ⟨s, .ok a⟩ := by
  obtain ⟨s₁, result⟩ := r
  cases result with
  | error e => cases h
  | ok _ => exact ⟨s₁, rfl, h⟩

namespace Immediate

variable {i i' i'' : Immediate} {act : String → Immediate → Reply Immediate Unit} {text : String}

instance : Nonempty Command := ⟨.call⟩

theorem dispatch_of_parse {line : String} {c : Command} {args : List String}
    (parsed : vocabulary.parse line = .ok ⟨c.name, args⟩) :
    i.dispatch act line = i.perform act args c :=
  repertoire.dispatch_of_parse parsed (perform act) i

theorem define_eq (args : List String) (i : Immediate) :
    i.define args =
      match readName args[0]? with
      | .error f => .error (.fault f)
      | .ok name =>
        match i.toWorkspace.define { name, offset := i.position + 1 } with
        | .error f => .error (.fault f)
        | .ok w => .ok ({ i with toWorkspace := w, opened := some name }.onSession
            (·.note (.bodyOpened name))) := by
  unfold Immediate.define
  cases readName args[0]? with
  | error f => rfl
  | ok name =>
    dsimp only
    change ((i.toWorkspace.define { name, offset := i.position + 1 }).mapError Failure.fault >>=
      fun _ => pure _) = _
    cases i.toWorkspace.define { name, offset := i.position + 1 } <;> rfl

/-- A definition is accepted if the name is new. -/
theorem define_eq_ok_iff {args : List String} :
    i.define args = .ok i' ↔
      ∃ name, readName args[0]? = .ok name ∧ i.isDefined name = false ∧
        i' = { i with
          toWorkspace := i.addFunction { name, offset := i.position + 1 }
          opened := some name }.onSession (·.note (.bodyOpened name)) := by
  rw [define_eq]
  cases readName args[0]? with
  | error f =>
    constructor
    · intro h
      cases h
    · rintro ⟨name, h, -⟩
      cases h
  | ok name =>
    simp only [Workspace.define]
    cases defined : i.isDefined name with
    | true =>
      constructor
      · intro h
        cases h
      · rintro ⟨other, same, new, -⟩
        cases same
        rw [defined] at new
        cases new
    | false =>
      constructor
      · intro h
        cases h
        exact ⟨name, rfl, defined, rfl⟩
      · rintro ⟨other, same, -, rfl⟩
        cases same
        rfl

/-! ## Statements -/

/-- What every statement that is not collected keeps: the stack, the position, and the functions
that are defined. A function that is new has no lines yet, and a body that is opened is that of a
new function. -/
structure Grows (i i' : Immediate) : Prop where
  stack : i'.routines.stack = i.routines.stack
  position : i'.position = i.position
  definition : ∀ name f, i.definition name = some f → i'.definition name = some f
  opened : i'.opened = i.opened ∨ ∃ name, i'.opened = some name ∧ i.definition name = none
  added : ∀ name f, i'.definition name = some f → i.definition name = some f ∨ f.lines = []

namespace Grows

theorem refl (i : Immediate) : Grows i i :=
  ⟨rfl, rfl, fun _ _ found => found, .inl rfl, fun _ _ found => .inl found⟩

theorem trans (h : Grows i i') (h' : Grows i' i'') : Grows i i'' := by
  refine ⟨h'.stack.trans h.stack, h'.position.trans h.position,
    fun name f found => h'.definition name f (h.definition name f found), ?_,
    fun name f found => (h'.added name f found).elim (h.added name f) .inr⟩
  obtain same | ⟨name, opened, new⟩ := h'.opened
  · rw [same]
    exact h.opened
  · refine .inr ⟨name, opened, ?_⟩
    rw [Option.eq_none_iff_forall_ne_some] at new ⊢
    exact fun f found => new f (h.definition name f found)

/-- A change of the session that leaves the routines alone. -/
theorem ofSession {s : Session} (routines : s.routines = i.routines) :
    Grows i { i with toSession := s } := by
  have same (name : String) : Workspace.definition s.toWorkspace name = i.definition name := by
    rw [Workspace.definition, Workspace.definition, routines]
  exact ⟨congrArg Routines.stack routines, rfl, fun name f found => (same name).trans found,
    .inl rfl, fun name f found => .inl ((same name).symm.trans found)⟩

/-- A change of a pointer. -/
theorem modify (i : Immediate) (id : RoutineId) {change : Routine → Routine}
    (pointer : ∀ r, (change r).rewind = r.rewind) :
    Grows i (i.onRoutines (·.modify id change)) :=
  ⟨rfl, rfl, fun _ _ found => (i.routines.rewind_find?_modify id _ pointer).trans found, .inl rfl,
    fun _ _ found => .inl ((i.routines.rewind_find?_modify id _ pointer).symm.trans found)⟩

end Grows

theorem define_grows {args : List String} (h : i.define args = .ok i') : Grows i i' := by
  obtain ⟨name, -, new, rfl⟩ := define_eq_ok_iff.1 h
  rw [Workspace.isDefined_eq_false_iff] at new
  refine ⟨rfl, rfl, fun other f found => ?_, .inr ⟨name, rfl, new⟩, fun other f found => ?_⟩
  · refine (Workspace.definition_addFunction _ _ _).trans ?_
    have differ : other ≠ name := by
      rintro rfl
      rw [new] at found
      cases found
    rw [if_neg differ, found]
  · have found := (Workspace.definition_addFunction _ _ _).symm.trans found
    split at found
    · cases found
      exact .inr rfl
    · exact .inl found

theorem runBody_grows
    (grows : ∀ line i, i.routines.stack ≠ [] → Grows i (act line i).state) (id : RoutineId)
    (pointer : Nat) (lines : List String) (i : Immediate) (running : i.routines.stack ≠ []) :
    Grows i (runBody act id pointer lines i).state := by
  induction lines generalizing pointer i with
  | nil => exact .refl i
  | cons line rest ih =>
    have placed : Grows i (i.onRoutines (·.modify id (·.pointAt pointer))) :=
      .modify i id fun _ => rfl
    have acted := placed.trans (grows line _ running)
    unfold runBody Reply.andThen Reply.bind
    split
    · have still := ih (pointer + 1) _ (acted.stack ▸ running)
      exact acted.trans still
    · exact acted

theorem call_grows
    (grows : ∀ line i, i.routines.stack ≠ [] → Grows i (act line i).state) (args : List String)
    (i : Immediate) : Grows i (i.call act args).state := by
  unfold Immediate.call
  cases readName args[0]? with
  | error f => exact .refl i
  | ok name =>
    dsimp only
    cases i.function name with
    | error f => exact .refl i
    | ok routine =>
      dsimp only
      split
      · exact .refl i
      · have body := runBody_grows grows (.function name) 0 routine.lines
          (i.onRoutines (·.push (.function name))) (List.cons_ne_nil _ _)
        have left := Grows.modify
          (runBody act (.function name) 0 routine.lines
            (i.onRoutines (·.push (.function name)))).state (.function name)
          (fun r => (rfl : r.rewind.rewind = r.rewind))
        have both := body.trans left
        exact ⟨congrArg List.tail both.stack, both.position, both.definition, both.opened,
          both.added⟩

theorem perform_grows
    (grows : ∀ line i, i.routines.stack ≠ [] → Grows i (act line i).state) (args : List String)
    (i : Immediate) (c : Command) : Grows i (i.perform act args c).state := by
  cases c with
  | session c =>
    dsimp only [perform]
    cases done : c.perform args (some i.position) i.toSession with
    | error f => exact .refl i
    | ok s => exact .ofSession (SessionCommand.routines_of_perform done)
  | define =>
    dsimp only [perform]
    cases done : i.define args with
    | error f => exact .refl i
    | ok i' => exact define_grows done
  | call => exact call_grows grows args i
  | idle => exact .refl i

theorem dispatch_grows
    (grows : ∀ line i, i.routines.stack ≠ [] → Grows i (act line i).state) (line : String)
    (i : Immediate) : Grows i (i.dispatch act line).state := by
  obtain ⟨f, -, refused⟩ | ⟨c, args, -, performed⟩ := repertoire.dispatch_cases line Immediate
  · rw [dispatch, refused]
    exact .refl i
  · rw [dispatch, performed]
    exact perform_grows grows args i c

/-- While a function runs, nothing is collected. -/
theorem execute_succ_of_running (depth : Nat) (line : String)
    (running : i.routines.stack ≠ []) :
    i.execute (depth + 1) line = i.dispatch (execute depth) line := by
  unfold execute collectOr
  rw [if_neg (by simpa using running)]

theorem execute_grows (depth : Nat) (line : String) (i : Immediate)
    (running : i.routines.stack ≠ []) : Grows i (i.execute depth line).state := by
  induction depth generalizing line i with
  | zero => exact .refl i
  | succ depth ih =>
    rw [execute_succ_of_running depth line running]
    exact dispatch_grows ih line i

/-! ## Lines outside every function -/

/-- The definitions after a line was added to the body of one of them. -/
theorem definition_append (i : Immediate) (open_ name body : String) :
    (i.onRoutines (·.modify (.function open_) (·.append body))).definition name =
      if name = open_ then (i.definition name).map (·.append body) else i.definition name := by
  simp only [Workspace.definition, onRoutines, Routines.modify, Table.find?_modify,
    RoutineId.function.injEq]
  split
  · cases i.routines.known.find? (.function name) <;> rfl
  · rfl

/-- The line goes to the body that is being collected. While a function runs, no line does. -/
def collects (i : Immediate) (line : String) : Bool :=
  i.routines.stack.isEmpty && i.opened.isSome && Text.isIndented line

/-- The interpreter when a line is carried out. Outside every function, the line closes the body
that is being collected. -/
def closing (i : Immediate) : Immediate :=
  if i.routines.stack.isEmpty then { i with opened := none } else i

theorem collects_iff : i.collects text = true ↔
    i.routines.stack = [] ∧ ∃ name body, i.opened = some name ∧ Text.dedent? text = some body := by
  simp only [collects, Text.isIndented, Bool.and_eq_true, Option.isSome_iff_exists,
    List.isEmpty_iff, and_assoc, exists_and_left, exists_and_right]

theorem routines_closing (i : Immediate) : i.closing.routines = i.routines := by
  unfold closing
  split <;> rfl

theorem execute_of_collects {name body : String} (outside : i.routines.stack = [])
    (open_ : i.opened = some name) (dedented : Text.dedent? text = some body) (depth : Nat) :
    i.execute (depth + 1) text =
      .ok (i.onRoutines (·.modify (.function name) (·.append body))) () := by
  unfold execute collectOr
  rw [if_pos (by simp [outside]), open_, dedented]

theorem execute_of_closes (closes : i.collects text = false) (depth : Nat) :
    i.execute (depth + 1) text = i.closing.dispatch (execute depth) text := by
  unfold execute collectOr closing
  split
  · next outside =>
    rw [collects, outside, Bool.true_and] at closes
    cases opened : i.opened with
    | none => rfl
    | some name =>
      rw [opened, Option.isSome_some, Bool.true_and] at closes
      rw [Text.isIndented_eq_false_iff.1 closes]
  · rfl

theorem statement_of_collects {name body : String} (outside : i.routines.stack = [])
    (open_ : i.opened = some name) (dedented : Text.dedent? text = some body) :
    i.statement text = .ok (i.onRoutines (·.modify (.function name) (·.append body))) () :=
  execute_of_collects outside open_ dedented _

theorem statement_of_closes (outside : i.routines.stack = [])
    (closes : i.opened = none ∨ Text.isIndented text = false) :
    i.statement text =
      dispatch (execute i.functions.length) text { i with opened := none } := by
  have closes : i.collects text = false := by
    obtain none | other := closes
    · simp [collects, none]
    · simp [collects, other]
  rw [statement, execute_of_closes closes, closing, if_pos (by simp [outside])]

/-- A line outside every function is collected, or closes the body that was being collected. -/
theorem collects_or_closes (i : Immediate) (text : String) :
    (∃ name body, i.opened = some name ∧ Text.dedent? text = some body) ∨
      (i.opened = none ∨ Text.isIndented text = false) := by
  cases open_ : i.opened with
  | none => exact .inr (.inl rfl)
  | some name =>
    cases dedented : Text.dedent? text with
    | none => exact .inr (.inr (Text.isIndented_eq_false_iff.2 dedented))
    | some body => exact .inl ⟨name, body, rfl, rfl⟩

/-- The function of a name, if its body is complete. -/
def settled (i : Immediate) (name : String) : Option Routine :=
  if i.opened = some name then none else i.definition name

theorem definition_of_settled {name : String} {f : Routine} (h : i.settled name = some f) :
    i.definition name = some f := by
  unfold settled at h
  split at h
  · cases h
  · exact h

/-- A line that closes a body settles all functions. -/
theorem Grows.settled {name : String} {f : Routine} (h : Grows { i with opened := none } i')
    (found : i.definition name = some f) : i'.settled name = some f := by
  have other : i'.opened ≠ some name := by
    obtain none | ⟨new, opened, undefined⟩ := h.opened
    · rw [none]
      simp
    · rw [opened]
      rintro same
      cases same
      rw [show i.definition name = none from undefined] at found
      cases found
  rw [Immediate.settled, if_neg other]
  exact h.definition name f found

theorem statement_settled (outside : i.routines.stack = []) (text : String) :
    (i.statement text).state.routines.stack = [] ∧
      ∀ name f, i.settled name = some f → (i.statement text).state.settled name = some f := by
  obtain ⟨open_, body, opened, dedented⟩ | closes := i.collects_or_closes text
  · rw [statement_of_collects outside opened dedented]
    refine ⟨outside, fun name f found => ?_⟩
    have other : i.opened ≠ some name := by
      intro same
      simp [settled, same] at found
    have differ : name ≠ open_ := by
      rintro rfl
      exact other opened
    refine (if_neg other).trans ((definition_append i open_ name body).trans ?_)
    rw [if_neg differ]
    exact definition_of_settled found
  · rw [statement_of_closes outside closes]
    have grows := dispatch_grows (execute_grows i.functions.length) text { i with opened := none }
    exact ⟨grows.stack.trans outside,
      fun name f found => grows.settled (definition_of_settled found)⟩

theorem statements_settled (outside : i.routines.stack = []) (lines : List String) :
    (statements lines i).state.routines.stack = [] ∧
      ∀ name f, i.settled name = some f → (statements lines i).state.settled name = some f := by
  induction lines generalizing i with
  | nil => exact ⟨outside, fun _ _ found => found⟩
  | cons line rest ih =>
    have first := statement_settled (show i.count.routines.stack = [] from outside) line
    unfold statements Reply.andThen Reply.bind
    split
    · obtain ⟨empty, later⟩ := ih first.1
      exact ⟨empty, fun name f found => later name f (first.2 name f found)⟩
    · exact first

end Immediate

end LineLang
