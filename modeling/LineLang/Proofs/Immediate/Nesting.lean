import LineLang.Proofs.Immediate.Functions
import Mathlib.Data.List.Perm.Subperm

/-!
# How deep calls nest

A function that is running cannot be called again, so the frames on the stack belong to different
functions, and there are at most as many frames as functions. A function that a running body defines
has no lines yet, so the functions in which calls nest further are among those that were defined
before the line was typed. Hence carrying out a line ends, whatever the functions call
(`line_ends_with_distinct_frames`).

`execute` is given a bound on the nesting. `Visits` lists the states that carrying out a statement
passes, without a bound. A bound is used up only by a state with as many frames
(`exists_visits_of_unfinished`), and one that is not used up has no influence (`execute_refines`).
-/

namespace LineLang

theorem Failure.IsRefusal.definite {converted : String → Prop} {f : Failure}
    (h : f.IsRefusal converted) : f ≠ .unfinished := by
  cases h <;> simp

theorem SessionCommand.definite_of_perform {args : List String} {outside : Option Int}
    {s : Session} {c : SessionCommand} {f : Failure}
    (failed : c.perform args outside s = .error f) : f ≠ .unfinished := by
  cases c with
  | onVariables c =>
    rw [perform_onVariables] at failed
    cases done : c.perform args (s.positionOr outside) s.vars with
    | ok effect => rw [done] at failed; cases failed
    | error e =>
      rw [done] at failed
      cases failed
      exact (c.refuses_perform _ _ _ f done).definite
  | setCode => cases failed
  | endSetCode =>
    have closed : s.endCode.mapError Failure.fault = .error f := failed
    cases code : s.endCode with
    | ok s' => rw [code] at closed; cases closed
    | error fault =>
      rw [code] at closed
      cases closed
      simp

namespace Immediate

variable {i i' j k : Immediate} {act act' : String → Immediate → Reply Immediate Unit}
  {text line name : String} {r : Routine} {depth : Nat}

/-! ## What a statement can do -/

/-- Carrying out the line calls the function `r`, which is not running. -/
structure Enters (line : String) (i : Immediate) (name : String) (r : Routine) : Prop where
  called : ∃ args, vocabulary.parse line = .ok ⟨Command.call.name, args⟩ ∧
    readName args[0]? = .ok name
  found : i.routines.known.find? (.function name) = some r
  free : .function name ∉ i.routines.stack

/-- The interpreter when a call has entered a function. Outside every function, a call closes the
body that is being collected. -/
def entering (i : Immediate) (name : String) : Immediate :=
  (if i.routines.stack.isEmpty then { i with opened := none } else i).onRoutines
    (·.push (.function name))

/-- The interpreter when a function has been left. -/
def leaving (i : Immediate) (name : String) : Immediate :=
  i.onRoutines fun rs => (rs.modify (.function name) Routine.rewind).pop

theorem refuses_define (args : List String) (i : Immediate) :
    Refuses (fun _ => False) (i.define args) := by
  have known (r : Routine) : i.toWorkspace.define r ≠ .error .unknownCommand := by
    unfold Workspace.define
    split <;> simp
  exact refuses_liftM_bind (readName_ne_unknownCommand _) fun _ _ =>
    refuses_liftM_bind (known _) fun _ _ => refuses_ok _

/-- A call is refused, or carries out the body of a function. -/
theorem call_cases {args : List String}
    (parsed : vocabulary.parse line = .ok ⟨Command.call.name, args⟩) (i : Immediate) :
    (∃ f, ∀ act, i.call act args = .fault i f) ∨
    ∃ name r, Enters line i name r ∧ ∀ act, i.call act args =
      (runBody act (.function name) 0 r.lines (i.onRoutines (·.push (.function name)))).mapState
        (·.leaving name) := by
  unfold Immediate.call Workspace.function
  cases named : readName args[0]? with
  | error f => exact .inl ⟨f, fun _ => rfl⟩
  | ok name =>
    dsimp only
    cases found : i.routines.known.find? (.function name) with
    | none => exact .inl ⟨.undefinedFunction name, fun _ => rfl⟩
    | some r =>
      by_cases running : .function name ∈ i.routines.stack
      · exact .inl ⟨.recursiveCall name, fun _ => if_pos running⟩
      · exact .inr ⟨name, r, ⟨⟨args, parsed, named⟩, found, running⟩, fun _ => if_neg running⟩

theorem perform_cases {c : Command} {args : List String}
    (parsed : vocabulary.parse line = .ok ⟨c.name, args⟩) (i : Immediate) :
    (∃ reply, reply.result ≠ .error .unfinished ∧ ∀ act, i.perform act args c = reply) ∨
    ∃ name r, Enters line i name r ∧ ∀ act, i.perform act args c =
      (runBody act (.function name) 0 r.lines (i.onRoutines (·.push (.function name)))).mapState
        (·.leaving name) := by
  cases c with
  | session c =>
    refine .inl ⟨_, ?_, fun _ => rfl⟩
    cases done : c.perform args (some i.position) i.toSession with
    | ok s => simp [Except.map, Reply.ok]
    | error f =>
      simpa [Except.map, Reply.ofExcept] using SessionCommand.definite_of_perform done
  | define =>
    refine .inl ⟨_, ?_, fun _ => rfl⟩
    cases done : i.define args with
    | ok i' => simp [Reply.ok]
    | error f => simpa [Reply.ofExcept] using (refuses_define args i f done).definite
  | idle => exact .inl ⟨.ok i (), by simp [Reply.ok], fun _ => rfl⟩
  | call =>
    obtain ⟨f, refused⟩ | enters := call_cases parsed i
    · exact .inl ⟨.fault i f, by simp [Reply.fault], refused⟩
    · exact .inr enters

/-- A statement ends without carrying out another one, or carries out the body of a function. -/
theorem dispatch_cases (line : String) (i : Immediate) :
    (∃ reply, reply.result ≠ .error .unfinished ∧ ∀ act, i.dispatch act line = reply) ∨
    ∃ name r, Enters line i name r ∧ ∀ act, i.dispatch act line =
      (runBody act (.function name) 0 r.lines (i.onRoutines (·.push (.function name)))).mapState
        (·.leaving name) := by
  obtain ⟨f, -, refused⟩ | ⟨c, args, parsed, performed⟩ := repertoire.dispatch_cases line Immediate
  · exact .inl ⟨.fault i f, by simp [Reply.fault], fun act => refused (perform act) i⟩
  · simp only [dispatch, performed]
    exact perform_cases parsed i

/-- Executing a line ends without executing another one, or carries out the body of a function, for
whose lines one level less of nesting is left. -/
theorem execute_cases (line : String) (i : Immediate) :
    (∃ reply, reply.result ≠ .error .unfinished ∧ ∀ depth, i.execute (depth + 1) line = reply) ∨
    ∃ name r, Enters line i name r ∧ ∀ depth, i.execute (depth + 1) line =
      (runBody (execute depth) (.function name) 0 r.lines (i.entering name)).mapState
        (·.leaving name) := by
  cases collects : i.collects line with
  | true =>
    obtain ⟨outside, name, body, opened, dedented⟩ := collects_iff.1 collects
    exact .inl ⟨_, by simp [Reply.ok], execute_of_collects outside opened dedented⟩
  | false =>
    have closed (depth : Nat) := execute_of_closes collects depth
    obtain ⟨reply, definite, same⟩ | ⟨name, r, enters, same⟩ := dispatch_cases line i.closing
    · exact .inl ⟨reply, definite, fun depth => (closed depth).trans (same _)⟩
    · have found := enters.found
      have free := enters.free
      rw [routines_closing] at found free
      exact .inr ⟨name, r, ⟨enters.called, found, free⟩, fun depth => (closed depth).trans (same _)⟩

/-! ## Bounds that are not used up -/

/-- Where the first way to act comes to an end, the second does the same. -/
def Refines (act act' : String → Immediate → Reply Immediate Unit) : Prop :=
  ∀ line i, (act line i).result ≠ .error .unfinished → act' line i = act line i

theorem Refines.trans {act'' : String → Immediate → Reply Immediate Unit} (h : Refines act act')
    (h' : Refines act' act'') : Refines act act'' := by
  intro line i definite
  have same := h line i definite
  rw [h' line i (same ▸ definite), same]

theorem Refines.runBody (h : Refines act act') {id : RoutineId} {pointer : Nat}
    {lines : List String}
    (definite : (runBody act id pointer lines i).result ≠ .error .unfinished) :
    runBody act' id pointer lines i = runBody act id pointer lines i := by
  induction lines generalizing pointer i with
  | nil => rfl
  | cons line rest ih =>
    unfold Immediate.runBody at definite ⊢
    rcases acted : act line (i.onRoutines (·.modify id (·.pointAt pointer))) with ⟨next, result⟩
    rw [acted] at definite
    have ended : result ≠ .error .unfinished := by
      rintro rfl
      exact definite rfl
    rw [h line _ (by rw [acted]; exact ended), acted]
    cases result with
    | error f => rfl
    | ok _ => exact ih definite

theorem execute_refines_succ (depth : Nat) : Refines (execute depth) (execute (depth + 1)) := by
  induction depth with
  | zero => exact fun line i definite => absurd rfl definite
  | succ depth ih =>
    intro line i definite
    obtain ⟨reply, -, same⟩ | ⟨name, r, -, same⟩ := execute_cases line i
    · rw [same, same]
    · rw [same] at definite ⊢
      rw [same, ih.runBody definite]

/-- A larger bound changes nothing where a smaller one is enough. -/
theorem execute_refines {m n : Nat} (le : m ≤ n) : Refines (execute m) (execute n) := by
  induction le with
  | refl => exact fun _ _ _ => rfl
  | step _ ih => exact ih.trans (execute_refines_succ _)

/-! ## The states on the way -/

/-- Carrying out the line passes the state `k`: it is the first state, or a state between two
statements of the body of a function that was called, or one that carrying out such a statement
passes. -/
inductive Visits : String → Immediate → Immediate → Prop
  | start (line : String) (i : Immediate) : Visits line i i
  | between {line : String} {i j : Immediate} {name : String} {r : Routine} {depth : Nat}
      {before after : List String} (enters : Enters line i name r)
      (split : r.lines = before ++ after)
      (done : runBody (execute depth) (.function name) 0 before (i.entering name) = .ok j ()) :
      Visits line i j
  | within {line next : String} {i j k : Immediate} {name : String} {r : Routine} {depth : Nat}
      {before after : List String} (enters : Enters line i name r)
      (split : r.lines = before ++ next :: after)
      (done : runBody (execute depth) (.function name) 0 before (i.entering name) = .ok j ())
      (rest : Visits next (j.onRoutines (·.modify (.function name) (·.pointAt before.length))) k) :
      Visits line i k

theorem routines_entering (i : Immediate) (name : String) :
    (i.entering name).routines = i.routines.push (.function name) := by
  unfold entering
  split <;> rfl

theorem definition_entering (i : Immediate) (name other : String) :
    (i.entering name).definition other = i.definition other := by
  rw [Workspace.definition, routines_entering]
  rfl

theorem Enters.definition (h : Enters line i name r) : i.definition name = some r.rewind := by
  rw [Workspace.definition, h.found, Option.map_some]

theorem entering_grows {before : List String}
    (done : runBody (execute depth) (.function name) 0 before (i.entering name) = .ok j ()) :
    Grows (i.entering name) j := by
  have grows := runBody_grows (execute_grows depth) (.function name) 0 before (i.entering name)
    (by rw [routines_entering]; exact List.cons_ne_nil _ _)
  rwa [done] at grows

/-- The frames belong to different functions, which are defined. -/
structure Unrepeated (i : Immediate) : Prop where
  nodup : i.routines.stack.Nodup
  defined : ∀ id ∈ i.routines.stack, ∃ name f, id = .function name ∧ i.definition name = some f

theorem Unrepeated.grows (h : Unrepeated i) (grows : Grows i i') : Unrepeated i' := by
  refine ⟨grows.stack ▸ h.nodup, fun id member => ?_⟩
  rw [grows.stack] at member
  obtain ⟨name, f, rfl, found⟩ := h.defined id member
  exact ⟨name, f, rfl, grows.definition name f found⟩

theorem Unrepeated.entering (h : Unrepeated i) (enters : Enters line i name r) :
    Unrepeated (i.entering name) := by
  have stack : (i.entering name).routines.stack = .function name :: i.routines.stack := by
    rw [routines_entering]
    rfl
  refine ⟨?_, fun id member => ?_⟩
  · rw [stack]
    exact List.nodup_cons.2 ⟨enters.free, h.nodup⟩
  · rw [stack] at member
    obtain rfl | member := List.mem_cons.1 member
    · exact ⟨name, _, rfl, (definition_entering i name name).trans enters.definition⟩
    · obtain ⟨other, f, rfl, found⟩ := h.defined id member
      exact ⟨other, f, rfl, (definition_entering i name other).trans found⟩

theorem Visits.unrepeated (h : Visits line i k) (first : Unrepeated i) : Unrepeated k := by
  induction h with
  | start => exact first
  | between enters _ done => exact (first.entering enters).grows (entering_grows done)
  | within enters _ done _ ih =>
    have later := (first.entering enters).grows (entering_grows done)
    exact ih (later.grows (.modify _ _ fun _ => rfl))

/-! ## Bounds that are used up -/

theorem exists_statement_of_unfinished {id : RoutineId} {pointer : Nat} {lines : List String}
    (unfinished : (runBody act id pointer lines i).result = .error .unfinished) :
    ∃ before next after j, lines = before ++ next :: after ∧
      runBody act id pointer before i = .ok j () ∧
      (act next (j.onRoutines (·.modify id (·.pointAt ↑(pointer + before.length))))).result =
        .error .unfinished := by
  induction lines generalizing pointer i with
  | nil => cases unfinished
  | cons line rest ih =>
    unfold runBody at unfinished
    rcases acted : act line (i.onRoutines (·.modify id (·.pointAt pointer))) with ⟨next, result⟩
    rw [acted] at unfinished
    cases result with
    | error f =>
      refine ⟨[], line, rest, i, rfl, rfl, ?_⟩
      rw [List.length_nil, Nat.add_zero, acted]
      exact unfinished
    | ok _ =>
      obtain ⟨before, later, after, j, rfl, done, unfinished⟩ := ih unfinished
      refine ⟨line :: before, later, after, j, rfl, ?_, ?_⟩
      · rw [runBody, acted]
        exact done
      · rwa [List.length_cons, Nat.add_comm before.length, ← Nat.add_assoc]

/-- If the bound is used up, a state is passed with as many frames more. Their functions have lines,
so they were defined before. -/
theorem exists_visits_of_unfinished
    (unfinished : (i.execute depth line).result = .error .unfinished) :
    ∃ k, Visits line i k ∧ k.routines.depth = i.routines.depth + depth ∧
      ∀ id ∈ k.routines.stack, id ∈ i.routines.stack ∨
        ∃ name f, id = .function name ∧ i.definition name = some f ∧ f.lines ≠ [] := by
  induction depth generalizing line i with
  | zero => exact ⟨i, .start line i, rfl, fun _ => .inl⟩
  | succ depth ih =>
    obtain ⟨reply, definite, same⟩ | ⟨name, r, enters, same⟩ := execute_cases line i
    · exact absurd unfinished (same depth ▸ definite)
    · rw [same] at unfinished
      obtain ⟨before, next, after, j, split, done, unfinished⟩ :=
        exists_statement_of_unfinished (i := i.entering name) unfinished
      rw [Nat.zero_add] at unfinished
      obtain ⟨k, visits, frames, defined⟩ := ih unfinished
      have moved (r : Routine) : (r.pointAt before.length).rewind = r.rewind := rfl
      have grows := (entering_grows done).trans (.modify j (.function name) moved)
      have stack := grows.stack
      rw [routines_entering] at stack
      refine ⟨k, .within enters split done visits, ?_, fun id member => ?_⟩
      · rw [frames, Routines.depth, stack, Routines.push, List.length_cons, Routines.depth]
        omega
      · obtain member | ⟨other, f, rfl, found, some_line⟩ := defined id member
        · rw [stack] at member
          obtain rfl | member := List.mem_cons.1 member
          · refine .inr ⟨name, r.rewind, rfl, enters.definition, ?_⟩
            simp [Routine.rewind, Routine.pointAt, split]
          · exact .inl member
        · obtain old | none := grows.added other f found
          · rw [definition_entering] at old
            exact .inr ⟨other, f, rfl, old, some_line⟩
          · exact absurd none some_line

theorem length_le_functions {ids : List RoutineId} (nodup : ids.Nodup)
    (defined : ∀ id ∈ ids, ∃ name f, id = .function name ∧ i.definition name = some f) :
    ids.length ≤ i.functions.length := by
  have same : (i.routines.known.keys.filter (·.function?.isSome)).length = i.functions.length := by
    unfold Table.keys Workspace.functions
    induction i.routines.known.entries with
    | nil => rfl
    | cons entry entries ih =>
      obtain ⟨id, r⟩ := entry
      cases id with
      | program load => simpa [RoutineId.function?] using ih
      | function name => simpa [RoutineId.function?] using ih
  rw [← same]
  apply (List.subperm_of_subset nodup _).length_le
  intro id member
  obtain ⟨name, f, rfl, found⟩ := defined id member
  refine List.mem_filter.2 ⟨?_, rfl⟩
  by_contra unknown
  rw [Workspace.definition, (Table.find?_eq_none_iff _ _).2 unknown] at found
  cases found

/-- Outside every function, a bound greater than the number of functions is not used up. -/
theorem execute_ne_unfinished (outside : i.routines.stack = [])
    (enough : i.functions.length < depth) (line : String) :
    (i.execute depth line).result ≠ .error .unfinished := by
  intro unfinished
  obtain ⟨k, visits, frames, defined⟩ := exists_visits_of_unfinished unfinished
  have first : Unrepeated i := ⟨by simp [outside], by simp [outside]⟩
  have bound : k.routines.stack.length ≤ i.functions.length := by
    apply length_le_functions (visits.unrepeated first).nodup
    intro id member
    obtain member | ⟨name, f, same, found, -⟩ := defined id member
    · rw [outside] at member
      cases member
    · exact ⟨name, f, same, found⟩
  have deep : k.routines.stack.length = depth := by
    rw [← Nat.zero_add depth, ← List.length_nil (α := RoutineId), ← outside]
    exact frames
  omega

theorem statement_ne_unfinished (outside : i.routines.stack = []) (line : String) :
    (i.statement line).result ≠ .error .unfinished :=
  execute_ne_unfinished outside (Nat.lt_succ_self _) line

theorem statements_ne_unfinished (outside : i.routines.stack = []) (lines : List String) :
    (statements lines i).result ≠ .error .unfinished := by
  induction lines generalizing i with
  | nil => simp [statements, Reply.ok]
  | cons line rest ih =>
    have outside : i.count.routines.stack = [] := outside
    have ended := statement_ne_unfinished outside line
    have empty := (statement_settled outside line).1
    unfold statements
    generalize i.count.statement line = reply at ended empty
    obtain ⟨next, result⟩ := reply
    cases result with
    | error f => exact ended
    | ok _ => exact ih empty

/-! ## Lines -/

/-- The interpreter after lines were typed, one after the other. -/
def typing (lines : List String) (i : Immediate) : Immediate :=
  lines.foldl (fun i text => (i.line text).state) i

/-- Typing `text` comes to carry out a line, outside every function, in the state `j`: the text
itself, or a line of the script that it is. -/
inductive Comes (text : String) (i : Immediate) : String → Immediate → Prop
  | typed (ready : i.phase ≠ .waiting) : Comes text i text i.count
  | script {before after : List String} {line : String} {j : Immediate}
      (waiting : i.phase = .waiting) (split : Text.scriptLines text = before ++ line :: after)
      (done : statements before i = .ok j ()) : Comes text i line j.count

theorem routines_load (i : Immediate) (text : String) :
    (i.load text).state.routines = (statements (Text.scriptLines text) i).state.routines :=
  Session.enter_routines _ _

/-- What a line comes down to before a fault is reported, which changes no routine. -/
theorem exists_reply_of_line (outside : i.routines.stack = []) (text : String) :
    ∃ reply : Reply Immediate Unit, reply.state.routines.stack = [] ∧
      reply.result ≠ .error .unfinished ∧
      i.line text = reply.settle fun f i => i.onSession (·.report text f) := by
  unfold Immediate.line
  split
  · refine ⟨i.load text, ?_, statements_ne_unfinished outside _, rfl⟩
    rw [routines_load]
    exact (statements_settled outside _).1
  · have outside : i.count.routines.stack = [] := outside
    exact ⟨_, (statement_settled outside text).1, statement_ne_unfinished outside text, rfl⟩

/-- A line ends, outside every function. -/
theorem line_ends (outside : i.routines.stack = []) (text : String) :
    (i.line text).state.routines.stack = [] ∧ (i.line text).result ≠ .error .unfinished := by
  obtain ⟨⟨next, result⟩, empty, ended, same⟩ := exists_reply_of_line outside text
  rw [same]
  cases result with
  | ok _ => exact ⟨empty, by simp [Reply.settle]⟩
  | error f =>
    cases f with
    | fault f => exact ⟨empty, by simp [Reply.settle]⟩
    | crash c => exact ⟨empty, by simp [Reply.settle]⟩
    | unfinished => exact absurd rfl ended

theorem stack_typing (outside : i.routines.stack = []) (lines : List String) :
    (typing lines i).routines.stack = [] := by
  induction lines generalizing i with
  | nil => exact outside
  | cons text rest ih => exact ih (line_ends outside text).1

theorem Comes.outside (h : Comes text i line j) (outside : i.routines.stack = []) :
    j.routines.stack = [] := by
  cases h with
  | typed => exact outside
  | @script before _ _ j _ _ done =>
    have empty := (statements_settled outside before).1
    rwa [done] at empty

/-- Whatever was typed before, a line that is typed ends. Each statement that it comes to ends, and
a larger bound on the nesting of calls changes nothing. In every state on the way the frames belong
to different functions, so there are at most as many frames as functions. -/
theorem line_ends_with_distinct_frames (strict : Bool) (lines : List String) (text : String) :
    ((typing lines { strict }).line text).result ≠ .error .unfinished ∧
    ∀ line j, Comes text (typing lines { strict }) line j →
      ((j.statement line).result ≠ .error .unfinished ∧
        ∀ depth, j.functions.length < depth → j.execute depth line = j.statement line) ∧
      ∀ k, Visits line j k → k.routines.stack.Nodup ∧ k.routines.depth ≤ k.functions.length := by
  have outside : (typing lines { strict }).routines.stack = [] := stack_typing rfl lines
  refine ⟨(line_ends outside text).2, fun line j comes => ?_⟩
  have outside := comes.outside outside
  have ended := statement_ne_unfinished outside line
  refine ⟨⟨ended, fun depth enough => execute_refines enough line j ended⟩, fun k visits => ?_⟩
  have unrepeated : Unrepeated k := visits.unrepeated ⟨by simp [outside], by simp [outside]⟩
  exact ⟨unrepeated.nodup, length_le_functions unrepeated.nodup unrepeated.defined⟩

/-- Functions that call each other, one of which defines a third and calls it. -/
example :
    ((typing ["def f", "    call g", "def g", "    def h", "    call h", "    call f"] {}).line
      "call f").result = .ok (.failure (.recursiveCall "f")) := by
  decide +kernel

end Immediate

end LineLang
