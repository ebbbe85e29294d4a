import LineLang.Proofs.Immediate.Effect

/-!
# What whole sessions of the immediate interpreter keep

`feed` lists the lines that the interpreter has taken: a line that is typed is taken as it is, and
of a script the lines up to the first that fails. A property of these lines and of the state is a
`SessionInvariant` if it is kept by everything that can happen between two statements. It then
holds after whatever is typed (`SessionInvariant.holds`).

The statements of a running function are at a place in its body, and those outside every function at
the last line taken. What an invariant has to know about that place is `Stands`.
-/

namespace LineLang

/-- What follows on an operation: nothing if it has failed. -/
def Reply.goOn {σ α : Type} (r : Reply σ Unit) (next : σ → List α) : List α :=
  match r.result with
  | .ok _ => next r.state
  | .error _ => []

namespace Immediate

variable {i : Immediate} {name : String} {lines : List String} {f : Routine} {depth : Nat}
  {rest : List RoutineId} {before : List String}

/-! ## The lines that are taken -/

/-- The lines of a script that are taken: those up to the first that fails. -/
def taken : List String → Immediate → List String
  | [], _ => []
  | line :: rest, i => line :: (i.count.statement line).goOn (taken rest)

/-- The lines that are taken when a text is typed. -/
def fed (text : String) (i : Immediate) : List String :=
  if i.phase = .waiting then taken (Text.scriptLines text) i else [text]

/-- The lines that are taken when texts are typed one after the other. -/
def feed : List String → Immediate → List String
  | [], _ => []
  | text :: rest, i => i.fed text ++ feed rest (i.line text).state

/-! ## Running functions -/

/-- The property `P` is kept by the statements of running functions. When a statement is carried
out, `Stands` holds of it. -/
structure BodyInvariant (P : Immediate → Prop) (Stands : String → Immediate → Prop) : Prop where
  alter : ∀ {i i' : Immediate} {line : String}, P i → Stands line i → Alters i line i' → P i'
  enter : ∀ {i : Immediate} {line name : String} {r : Routine}, P i → Enters line i name r →
    P (i.onRoutines (·.push (.function name)))
  place : ∀ {i : Immediate} {name line : String} {f : Routine} {rest : List RoutineId}
    {pointer : Nat}, P i → i.routines.stack = .function name :: rest →
    i.definition name = some f → f.lines[pointer]? = some line →
    P (i.onRoutines (·.modify (.function name) (·.pointAt pointer))) ∧
      Stands line (i.onRoutines (·.modify (.function name) (·.pointAt pointer)))
  leave : ∀ {i : Immediate} {name : String} {rest : List RoutineId}, P i →
    i.routines.stack = .function name :: rest → P (i.leaving name)

namespace BodyInvariant

variable {P : Immediate → Prop} {Stands : String → Immediate → Prop}

theorem runBody (kept : BodyInvariant P Stands)
    (acts : ∀ line i, i.routines.stack ≠ [] → P i → Stands line i → P (execute depth line i).state)
    {pointer : Nat} (h : P i) (stack : i.routines.stack = .function name :: rest)
    (found : i.definition name = some f) (ahead : f.lines.drop pointer = lines) :
    P (runBody (execute depth) (.function name) pointer lines i).state := by
  induction lines generalizing i pointer with
  | nil => exact h
  | cons line lines ih =>
    have here : f.lines[pointer]? = some line := by rw [← List.head?_drop, ahead, List.head?_cons]
    have later : f.lines.drop (pointer + 1) = lines := by
      rw [← List.tail_drop, ahead, List.tail_cons]
    obtain ⟨placed, stands⟩ := kept.place h stack found here
    have running : (i.onRoutines (·.modify (.function name) (·.pointAt pointer))).routines.stack ≠
        [] := by
      change i.routines.stack ≠ []
      rw [stack]
      exact List.cons_ne_nil _ _
    have acted := acts line _ running placed stands
    -- The statement has kept the frame and its function, so that the next one is found.
    have moved (r : Routine) : (r.pointAt pointer).rewind = r.rewind := rfl
    have grows := (Grows.modify i (.function name) moved).trans
      (execute_grows depth line _ running)
    unfold Immediate.runBody Reply.andThen Reply.bind
    split
    · exact ih acted (grows.stack.trans stack) (grows.definition name f found) later
    · exact acted

theorem dispatch (kept : BodyInvariant P Stands)
    (acts : ∀ line i, i.routines.stack ≠ [] → P i → Stands line i → P (execute depth line i).state)
    {line : String} (h : P i) (stands : Stands line i) :
    P (i.dispatch (execute depth) line).state := by
  have effect := dispatch_effect (execute depth) i line
  generalize i.dispatch (execute depth) line = reply at effect
  cases effect with
  | refuse | tooLong => exact h
  | alter i' alters => exact kept.alter h stands alters
  | call name r enters =>
    have body := kept.runBody acts (kept.enter h enters) (f := r.rewind) rfl enters.definition
      List.drop_zero
    have grows := runBody_grows (execute_grows depth) (.function name) 0 r.lines
      (i.onRoutines (·.push (.function name))) (List.cons_ne_nil _ _)
    exact kept.leave body grows.stack

/-- The nesting of calls is bounded, and the induction is on the bound. -/
theorem execute (kept : BodyInvariant P Stands) (depth : Nat) (line : String) (i : Immediate)
    (running : i.routines.stack ≠ []) (h : P i) (stands : Stands line i) :
    P (i.execute depth line).state := by
  induction depth generalizing line i with
  | zero => exact h
  | succ depth ih =>
    rw [execute_succ_of_running depth line running]
    exact kept.dispatch ih h stands

end BodyInvariant

/-! ## Sessions -/

/-- The property `P` of the lines taken so far and of the state is kept when a line is taken,
whether it is collected or carried out, and when a script or a faulty line comes to its end. -/
structure SessionInvariant (P : List String → Immediate → Prop)
    (Stands : List String → String → Immediate → Prop) : Prop where
  body : ∀ before : List String, BodyInvariant (P before) (Stands before)
  collect : ∀ {before : List String} {i : Immediate} {name line text : String}, P before i →
    i.routines.stack = [] → i.opened = some name → Text.dedent? line = some text →
    P (before ++ [line]) (i.count.onRoutines (·.modify (.function name) (·.append text)))
  close : ∀ {before : List String} {i : Immediate} {line : String}, P before i →
    i.routines.stack = [] → P (before ++ [line]) { i.count with opened := none } ∧
      Stands (before ++ [line]) line { i.count with opened := none }
  ready : ∀ {before : List String} {i : Immediate}, P before i →
    P before ({ i with opened := none }.onSession (·.enter .ready))
  report : ∀ {before : List String} {i : Immediate} {text : String} {fault : Fault}, P before i →
    P before (i.onSession (·.report text fault))

namespace SessionInvariant

variable {P : List String → Immediate → Prop} {Stands : List String → String → Immediate → Prop}

theorem statement (kept : SessionInvariant P Stands) (h : P before i)
    (outside : i.routines.stack = []) (line : String) :
    P (before ++ [line]) (i.count.statement line).state := by
  have outside' : i.count.routines.stack = [] := outside
  obtain ⟨name, text, opened, dedented⟩ | closes := i.collects_or_closes line
  · rw [statement_of_collects outside' opened dedented]
    exact kept.collect h outside opened dedented
  · rw [statement_of_closes outside' closes]
    obtain ⟨closed, stands⟩ := kept.close h outside
    have body := kept.body (before ++ [line])
    exact body.dispatch (body.execute _) closed stands

theorem statements (kept : SessionInvariant P Stands) (h : P before i)
    (outside : i.routines.stack = []) (lines : List String) :
    P (before ++ taken lines i) (statements lines i).state := by
  induction lines generalizing i before with
  | nil => rwa [taken, List.append_nil]
  | cons line lines ih =>
    have first := kept.statement h outside line
    have empty := (statement_settled (show i.count.routines.stack = [] from outside) line).1
    unfold taken Immediate.statements
    generalize i.count.statement line = reply at first empty
    obtain ⟨next, result⟩ := reply
    cases result with
    | ok _ =>
      have later := ih first empty
      rwa [List.append_assoc] at later
    | error f => exact first

theorem line (kept : SessionInvariant P Stands) (h : P before i)
    (outside : i.routines.stack = []) (text : String) :
    P (before ++ i.fed text) (i.line text).state := by
  have taken : P (before ++ i.fed text)
      (if i.phase = .waiting then i.load text else i.count.statement text).state := by
    unfold fed
    split
    · exact kept.ready (kept.statements h outside _)
    · exact kept.statement h outside text
  unfold Immediate.line Reply.settle
  split
  · exact taken
  · exact kept.report taken
  · exact taken

theorem typing (kept : SessionInvariant P Stands) (h : P before i)
    (outside : i.routines.stack = []) (lines : List String) :
    P (before ++ feed lines i) (typing lines i) := by
  induction lines generalizing i before with
  | nil => rwa [feed, List.append_nil]
  | cons text lines ih =>
    have later := ih (kept.line h outside text) (line_ends outside text).1
    rwa [List.append_assoc] at later

/-- Whatever is typed, the invariant holds afterwards of the lines that were taken. -/
theorem holds (kept : SessionInvariant P Stands) {strict : Bool} (fresh : P [] { strict })
    (lines : List String) : P (feed lines { strict }) (Immediate.typing lines { strict }) := by
  have kept := kept.typing fresh rfl lines
  rwa [List.nil_append] at kept

end SessionInvariant

/-! ## Tables -/

/-- No function and no variable has two entries. -/
structure Distinct (i : Immediate) : Prop where
  functions : i.routines.known.keys.Nodup
  vars : i.vars.keys.Nodup

namespace Distinct

theorem congr {i' : Immediate} (h : Distinct i) (same : i'.toWorkspace = i.toWorkspace) :
    Distinct i' := by
  have routines : i'.routines = i.routines := congrArg Workspace.routines same
  have vars : i'.vars = i.vars := congrArg Workspace.vars same
  exact ⟨routines ▸ h.functions, vars ▸ h.vars⟩

theorem modify (h : Distinct i) (id : RoutineId) (change : Routine → Routine) :
    Distinct (i.onRoutines (·.modify id change)) :=
  ⟨(Table.keys_modify _ id change).symm ▸ h.functions, h.vars⟩

/-- Each function is found under a name. -/
theorem exists_find? (h : Distinct i) (member : f ∈ i.functions) :
    ∃ name, i.routines.known.find? (.function name) = some f := by
  obtain ⟨⟨id, r⟩, entry, same⟩ := List.mem_filterMap.1 member
  cases id with
  | program load => cases same
  | function name =>
    cases same
    exact ⟨name, Table.find?_of_mem_entries h.functions entry⟩

theorem alter {i' : Immediate} {line : String} (h : Distinct i) (alters : Alters i line i') :
    Distinct i' := by
  cases alters with
  | onVariables c args vars lines parsed done =>
    refine ⟨h.functions, ?_⟩
    change vars.keys.Nodup
    obtain rfl | ⟨name, rfl⟩ | ⟨-, name, value, -, rfl⟩ := VariableCommand.vars_of_perform done
    · exact h.vars
    · rw [Table.keys_erase]
      exact h.vars.filter _
    · exact Table.nodup_keys_insert h.vars name _
  | setCode => exact h.congr (Session.enter_toWorkspace _ _)
  | endSetCode args parsed s closed => exact h.congr (Session.toWorkspace_of_endCode closed)
  | define args parsed name =>
    exact ⟨Table.nodup_keys_insert h.functions (.function name) _, h.vars⟩
  | idle => exact h

end Distinct

theorem distinct_invariant : SessionInvariant (fun _ => Distinct) fun _ _ _ => True where
  body _ :=
    { alter := fun h _ => h.alter
      enter := fun h _ => ⟨h.functions, h.vars⟩
      place := fun h _ _ _ => ⟨h.modify _ _, trivial⟩
      leave := fun {_ name _} h _ =>
        have rewound := h.modify (.function name) Routine.rewind
        ⟨rewound.functions, rewound.vars⟩ }
  collect {_ i _ _ _} h _ _ _ :=
    have counted : Distinct i.count := h.congr rfl
    counted.modify _ _
  close h _ := ⟨⟨h.functions, h.vars⟩, trivial⟩
  ready h := h.congr (Session.enter_toWorkspace _ _)
  report h := h.congr rfl

theorem distinct_typing (strict : Bool) (lines : List String) :
    Distinct (typing lines { strict }) :=
  distinct_invariant.holds ⟨List.nodup_nil, List.nodup_nil⟩ lines

end Immediate

end LineLang
