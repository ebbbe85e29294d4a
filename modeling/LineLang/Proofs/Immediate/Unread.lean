import LineLang.Proofs.Immediate.Functions

/-!
# What statements do not read

Statements of the immediate interpreter read the variables, the routines and whether code was asked
for. The phase, the output and the log are written, but have no influence. `Session.Unread` says of
a relation between sessions that it is about such parts only: the workspaces are the same, and the
relation is kept by what statements do to sessions. It is then kept by whole statements, which end
with the same result (`statement_parallel`), since a call carries out statements and changes nothing
else but the routines.
-/

namespace LineLang

/-- Sessions that are related have the same workspace. Changing it in both, noting an event and
carrying out a command on variables or on code keeps them related, and a command fails for both or
for neither. -/
structure Session.Unread (S : Session → Session → Prop) : Prop where
  workspace : ∀ {s t}, S s t → s.toWorkspace = t.toWorkspace
  setWorkspace : ∀ {s t}, S s t → ∀ w, S { s with toWorkspace := w } { t with toWorkspace := w }
  note : ∀ {s t}, S s t → ∀ event, S (s.note event) (t.note event)
  perform : ∀ {s t}, S s t → ∀ (c : SessionCommand) args outside,
    (∃ f, c.perform args outside s = .error f ∧ c.perform args outside t = .error f) ∨
      ∃ s' t', c.perform args outside s = .ok s' ∧ c.perform args outside t = .ok t' ∧ S s' t'

namespace Immediate

variable {S : Session → Session → Prop} {i j : Immediate}
  {act : String → Immediate → Reply Immediate Unit}

/-- The interpreters are the same but for their sessions, which are related. -/
structure Parallel (S : Session → Session → Prop) (i j : Immediate) : Prop where
  session : S i.toSession j.toSession
  position : i.position = j.position
  opened : i.opened = j.opened

/-- Statements that are carried out with `act` do the same to interpreters that are parallel. -/
def KeepsParallel (S : Session → Session → Prop)
    (act : String → Immediate → Reply Immediate Unit) : Prop :=
  ∀ line {i j}, Parallel S i j → Reply.Related (Parallel S) (act line i) (act line j)

theorem Parallel.eq (h : Parallel S i j) : j = { i with toSession := j.toSession } := by
  rw [h.position, h.opened]

theorem Parallel.onRoutines (unread : Session.Unread S) (h : Parallel S i j)
    (change : Routines RoutineId → Routines RoutineId) :
    Parallel S (i.onRoutines change) (j.onRoutines change) := by
  refine ⟨?_, h.position, h.opened⟩
  have same : { i.toWorkspace with routines := change i.routines } =
      { j.toWorkspace with routines := change j.routines } := by
    rw [unread.workspace h.session]
  change S _ { j.toSession with
    toWorkspace := { j.toWorkspace with routines := change j.routines } }
  rw [← same]
  exact unread.setWorkspace h.session _

theorem Parallel.close (h : Parallel S i j) :
    Parallel S { i with opened := none } { j with opened := none } :=
  ⟨h.session, h.position, rfl⟩

/-! ## Calls -/

theorem KeepsParallel.runBody (unread : Session.Unread S) (keeps : KeepsParallel S act)
    (id : RoutineId) (pointer : Nat) (lines : List String) (h : Parallel S i j) :
    Reply.Related (Parallel S) (runBody act id pointer lines i)
      (runBody act id pointer lines j) := by
  induction lines generalizing pointer i j with
  | nil => exact ⟨rfl, h⟩
  | cons line rest ih =>
    exact (keeps line (h.onRoutines unread _)).andThen fun next => ih (pointer + 1) next

theorem KeepsParallel.call (unread : Session.Unread S) (keeps : KeepsParallel S act)
    (args : List String) (h : Parallel S i j) :
    Reply.Related (Parallel S) (i.call act args) (j.call act args) := by
  unfold Immediate.call
  rw [unread.workspace h.session]
  cases readName args[0]? with
  | error f => exact ⟨rfl, h⟩
  | ok name =>
    dsimp only
    cases j.function name with
    | error f => exact ⟨rfl, h⟩
    | ok r =>
      dsimp only
      split
      · exact ⟨rfl, h⟩
      · exact (keeps.runBody unread _ _ _ (h.onRoutines unread _)).mapState
          fun left => left.onRoutines unread _

/-! ## Statements -/

theorem Parallel.define (unread : Session.Unread S) (h : Parallel S i j) (args : List String) :
    (∃ f, i.define args = .error f ∧ j.define args = .error f) ∨
      ∃ i' j', i.define args = .ok i' ∧ j.define args = .ok j' ∧ Parallel S i' j' := by
  rw [define_eq, define_eq, unread.workspace h.session, h.position]
  cases readName args[0]? with
  | error f => exact .inl ⟨_, rfl, rfl⟩
  | ok name =>
    dsimp only
    cases j.toWorkspace.define { name, offset := j.position + 1 } with
    | error f => exact .inl ⟨_, rfl, rfl⟩
    | ok w =>
      refine .inr ⟨_, _, rfl, rfl, ?_, rfl, rfl⟩
      exact unread.note (unread.setWorkspace h.session w) _

theorem KeepsParallel.perform (unread : Session.Unread S) (keeps : KeepsParallel S act)
    (h : Parallel S i j) (args : List String) (c : Command) :
    Reply.Related (Parallel S) (i.perform act args c) (j.perform act args c) := by
  cases c with
  | session c =>
    apply Reply.Related.ofExcept h
    rw [h.position]
    obtain ⟨f, failed, failed'⟩ | ⟨s, t, done, done', related⟩ :=
      unread.perform h.session c args (some j.position)
    · rw [failed, failed']
      exact .inl ⟨f, rfl, rfl⟩
    · rw [done, done']
      exact .inr ⟨_, _, rfl, rfl, related, rfl, h.opened⟩
  | define => exact .ofExcept h (h.define unread args)
  | call => exact keeps.call unread args h
  | idle => exact ⟨rfl, h⟩

theorem KeepsParallel.dispatch (unread : Session.Unread S) (keeps : KeepsParallel S act) :
    KeepsParallel S (dispatch act) :=
  fun line _ _ h => repertoire.dispatch_related h (keeps.perform unread h) line

theorem KeepsParallel.collectOr (unread : Session.Unread S) (keeps : KeepsParallel S act) :
    KeepsParallel S (collectOr act) := by
  intro line i j h
  unfold Immediate.collectOr
  rw [unread.workspace h.session, h.opened]
  split
  · split
    · next name body opened dedented =>
      exact ⟨rfl, h.onRoutines unread (·.modify (.function name) (·.append body))⟩
    · exact keeps line h.close
  · exact keeps line h

theorem execute_parallel (unread : Session.Unread S) (depth : Nat) :
    KeepsParallel S (execute depth) := by
  induction depth with
  | zero => exact fun _ _ _ h => ⟨rfl, h⟩
  | succ depth ih => exact (ih.dispatch unread).collectOr unread

/-- Statements do the same to interpreters whose sessions differ in unread parts only. -/
theorem statement_parallel (unread : Session.Unread S) : KeepsParallel S statement := by
  intro line i j h
  unfold statement
  rw [unread.workspace h.session]
  exact execute_parallel unread _ line h

end Immediate

end LineLang
