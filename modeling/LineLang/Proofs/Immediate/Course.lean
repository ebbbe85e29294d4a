import LineLang.Proofs.Immediate.Sessions

/-!
# The statements that a line comes to

A line that is typed can come to many statements: those of the functions that it calls, and those of
the script that it is. `lineCourse` lists them in the order in which they are carried out, each with
the state in which that happens, up to the first that fails. The definitions follow those of the
interpreter one by one.

What holds of single statements and is handed on from each to the next holds of a whole course
(`CourseInvariant`). So what a line does is said statement by statement (`Traced`): it writes what
the statements on its course print, and it crashes if one of them has a number that is too long.
-/

namespace LineLang

theorem Session.enter_output (s : Session) (phase : Phase) : (s.enter phase).output = s.output := by
  unfold Session.enter
  split <;> rfl

namespace Immediate

variable {i j : Immediate} {line name text : String} {r : Routine} {depth : Nat}
  {act : String → Immediate → Reply Immediate Unit} {reply : Reply Immediate Unit}
  {course : String → Immediate → List (String × Immediate)} {trace : List (String × Immediate)}

/-! ## Courses -/

/-- The function that carrying out the line calls, unless the call is refused. -/
def enters? (line : String) (i : Immediate) : Option (String × Routine) :=
  match vocabulary.parse line with
  | .error _ => none
  | .ok statement =>
    if statement.command = Command.call.name then
      match readName statement.args[0]? with
      | .error _ => none
      | .ok name =>
        if .function name ∈ i.routines.stack then none
        else (i.routines.known.find? (.function name)).map (name, ·)
    else none

/-- The statements that the lines of a body come to; `act` carries out a statement, and `course`
lists what it comes to. -/
def bodyCourse (act : String → Immediate → Reply Immediate Unit)
    (course : String → Immediate → List (String × Immediate)) (id : RoutineId) :
    Nat → List String → Immediate → List (String × Immediate)
  | _, [], _ => []
  | pointer, line :: rest, i =>
    course line (i.onRoutines (·.modify id (·.pointAt pointer))) ++
      (act line (i.onRoutines (·.modify id (·.pointAt pointer)))).goOn
        (bodyCourse act course id (pointer + 1) rest)

/-- A statement, and those of the body that it carries out. -/
def dispatchCourse (act : String → Immediate → Reply Immediate Unit)
    (course : String → Immediate → List (String × Immediate)) (line : String) (i : Immediate) :
    List (String × Immediate) :=
  (line, i) ::
    match i.enters? line with
    | none => []
    | some (name, r) =>
      bodyCourse act course (.function name) 0 r.lines (i.onRoutines (·.push (.function name)))

/-- The statements that executing a line comes to, where calls nest less than `depth` deep. A line
that is collected comes to none. -/
def executeCourse : Nat → String → Immediate → List (String × Immediate)
  | 0, _, _ => []
  | depth + 1, line, i =>
    if i.collects line then []
    else dispatchCourse (execute depth) (executeCourse depth) line i.closing

/-- The statements that a line comes to that is taken as a statement. -/
def statementCourse (line : String) (i : Immediate) : List (String × Immediate) :=
  executeCourse (i.functions.length + 1) line i

/-- The statements that the lines of a script come to. -/
def scriptCourse : List String → Immediate → List (String × Immediate)
  | [], _ => []
  | line :: rest, i =>
    i.count.statementCourse line ++ (i.count.statement line).goOn (scriptCourse rest)

/-- The statements that a line comes to, taken as code if code was asked for. -/
def lineCourse (text : String) (i : Immediate) : List (String × Immediate) :=
  if i.phase = .waiting then scriptCourse (Text.scriptLines text) i
  else i.count.statementCourse text

/-- The lines that a statement writes itself. -/
def prints (line : String) (i : Immediate) : List String :=
  match vocabulary.parse line with
  | .error _ => []
  | .ok statement =>
    match repertoire.ofName? statement.command with
    | some (.session (.onVariables c)) =>
      match c.perform statement.args (i.positionOr (some i.position)) i.vars with
      | .ok (_, lines) => lines
      | .error _ => []
    | _ => []

/-! ## Single statements -/

theorem enters?_eq_some_iff : i.enters? line = some (name, r) ↔ Enters line i name r := by
  unfold enters?
  constructor
  · intro h
    split at h
    · cases h
    · next statement parsed =>
      obtain ⟨command, args⟩ := statement
      split at h
      · next call =>
        dsimp only at call h
        subst call
        split at h
        · cases h
        · next named =>
          split at h
          · cases h
          · next free =>
            obtain ⟨r', found, same⟩ := Option.map_eq_some_iff.1 h
            cases same
            exact ⟨⟨args, parsed, named⟩, found, free⟩
      · cases h
  · rintro ⟨⟨args, parsed, named⟩, found, free⟩
    simp [parsed, named, found, free]

/-- A call that is not refused carries out the body of the function. -/
theorem dispatch_of_enters (enters : Enters line i name r) :
    i.dispatch act line =
      (runBody act (.function name) 0 r.lines (i.onRoutines (·.push (.function name)))).mapState
        (·.leaving name) := by
  obtain ⟨⟨args, parsed, named⟩, found, free⟩ := enters
  rw [dispatch_of_parse parsed, perform, call, named]
  simp only [Workspace.function, found]
  exact if_neg free

theorem prints_of_parse {c : Command} {args : List String}
    (parsed : vocabulary.parse line = .ok ⟨c.name, args⟩)
    (other : ∀ command, c ≠ .session (.onVariables command)) : i.prints line = [] := by
  unfold prints
  rw [parsed]
  dsimp only
  rw [repertoire.ofName?_name c]
  split
  · next same =>
    cases same
    exact absurd rfl (other _)
  · rfl

/-- A statement that calls no function writes what it prints. -/
theorem output_dispatch (bare : i.enters? line = none) :
    (i.dispatch act line).state.output.toList = i.output.toList ++ i.prints line := by
  obtain ⟨f, (unread : vocabulary.parse line = .error f), refused⟩ |
      ⟨c, args, (parsed : vocabulary.parse line = .ok ⟨c.name, args⟩), -⟩ :=
    repertoire.dispatch_cases line Immediate
  · rw [dispatch, refused, prints, unread]
    exact (List.append_nil _).symm
  · rw [dispatch_of_parse parsed]
    cases c with
    | session c =>
      cases c with
      | onVariables c =>
        have known : repertoire.ofName? c.name = some (.session (.onVariables c)) :=
          repertoire.ofName?_name (.session (.onVariables c))
        simp only [perform, SessionCommand.perform_onVariables, prints, parsed,
          Command.name, SessionCommand.name, known]
        cases c.perform args (i.positionOr (some i.position)) i.vars with
        | error f => simp [Except.map, Reply.ofExcept]
        | ok effect => simp [Except.map, Reply.ofExcept, Reply.ok, Session.write]
      | setCode =>
        rw [prints_of_parse parsed (by simp), List.append_nil]
        exact congrArg Record.toList (Session.enter_output _ _)
      | endSetCode =>
        rw [prints_of_parse parsed (by simp), List.append_nil]
        simp only [perform, SessionCommand.perform_endSetCode, Session.endCode]
        split
        · rfl
        · exact congrArg Record.toList (Session.enter_output _ _)
    | define =>
      rw [prints_of_parse parsed (by simp), List.append_nil, perform]
      cases done : i.define args with
      | error f => rfl
      | ok i' =>
        obtain ⟨name, -, -, rfl⟩ := define_eq_ok_iff.1 done
        rfl
    | call =>
      rw [prints_of_parse parsed (by simp), List.append_nil, perform]
      obtain ⟨f, refused⟩ | ⟨name, r, enters, -⟩ := call_cases parsed i
      · rw [refused]
        rfl
      · rw [enters?_eq_some_iff.2 enters] at bare
        cases bare
    | idle =>
      rw [prints_of_parse parsed (by simp), List.append_nil]
      rfl

/-- A statement that calls no function crashes if it has a number that is too long. -/
theorem crash_dispatch_iff (bare : i.enters? line = none) :
    (∃ c, (i.dispatch act line).result = .error (.crash c)) ↔ ∃ count, i.Overlong line count := by
  constructor
  · rintro ⟨c, crashed⟩
    have effect := dispatch_effect act i line
    generalize i.dispatch act line = reply at effect crashed
    cases effect with
    | refuse | alter => cases crashed
    | tooLong count overlong => exact ⟨count, overlong⟩
    | call name r enters =>
      rw [enters?_eq_some_iff.2 enters] at bare
      cases bare
  · rintro ⟨count, overlong⟩
    exact ⟨_, by rw [dispatch_of_overlong overlong]; rfl⟩

theorem Enters.not_overlong (h : Enters line i name r) (count : Nat) : ¬ i.Overlong line count := by
  rintro ⟨c, args, token, parsed, -⟩
  obtain ⟨args', called, -⟩ := h.called
  rw [parsed, Except.ok.injEq, Statement.mk.injEq] at called
  have names : c.name ≠ Command.call.name := by cases c <;> decide
  exact names called.1

theorem Enters.prints_eq_nil (h : Enters line i name r) : i.prints line = [] := by
  obtain ⟨args, called, -⟩ := h.called
  exact prints_of_parse called (by simp)

/-! ## Runs -/

/-- A property of a state, a reply and the statements in between. It holds of whole runs if it holds
of single statements: between them a run changes neither the phase nor the output nor a variable. -/
structure CourseInvariant
    (T : Immediate → Reply Immediate Unit → List (String × Immediate) → Prop) : Prop where
  done : ∀ i : Immediate, T i (.ok i ()) []
  unfinished : ∀ i : Immediate, T i ⟨i, .error .unfinished⟩ []
  single : ∀ {i : Immediate} {line : String} (act : String → Immediate → Reply Immediate Unit),
    i.enters? line = none → T i (i.dispatch act line) [(line, i)]
  enter : ∀ {i : Immediate} {line name : String} {r : Routine} {reply : Reply Immediate Unit}
    {trace : List (String × Immediate)}, Enters line i name r → T i reply trace →
    T i reply ((line, i) :: trace)
  congr : ∀ {i j : Immediate} {reply : Reply Immediate Unit} {trace : List (String × Immediate)},
    T i reply trace → i.output = j.output → i.phase = j.phase → i.vars = j.vars → T j reply trace
  onRoutines : ∀ {i : Immediate} {reply : Reply Immediate Unit} {trace : List (String × Immediate)}
    (change : Routines RoutineId → Routines RoutineId), T i reply trace →
    T i (reply.mapState (·.onRoutines change)) trace
  andThen : ∀ {i : Immediate} {reply : Reply Immediate Unit} {trace : List (String × Immediate)}
    {next : Immediate → Reply Immediate Unit} {after : Immediate → List (String × Immediate)},
    T i reply trace → T reply.state (next reply.state) (after reply.state) →
    T i (reply.andThen next) (trace ++ reply.goOn after)

namespace CourseInvariant

variable {T : Immediate → Reply Immediate Unit → List (String × Immediate) → Prop}

theorem runBody (kept : CourseInvariant T) (acts : ∀ line i, T i (act line i) (course line i))
    (id : RoutineId) (pointer : Nat) (lines : List String) (i : Immediate) :
    T i (runBody act id pointer lines i) (bodyCourse act course id pointer lines i) := by
  induction lines generalizing pointer i with
  | nil => exact kept.done i
  | cons line rest ih =>
    have acted := acts line (i.onRoutines (·.modify id (·.pointAt pointer)))
    exact kept.andThen (kept.congr acted rfl rfl rfl) (ih (pointer + 1) _)

theorem dispatch (kept : CourseInvariant T) (acts : ∀ line i, T i (act line i) (course line i))
    (line : String) (i : Immediate) :
    T i (i.dispatch act line) (dispatchCourse act course line i) := by
  unfold dispatchCourse
  cases entered : i.enters? line with
  | none => exact kept.single act entered
  | some called =>
    obtain ⟨name, r⟩ := called
    have enters := enters?_eq_some_iff.1 entered
    have inside := kept.runBody acts (.function name) 0 r.lines
      (i.onRoutines (·.push (.function name)))
    rw [dispatch_of_enters enters]
    exact kept.enter enters (kept.onRoutines _ (kept.congr inside rfl rfl rfl))

/-- The nesting of calls is bounded, and the induction is on the bound. -/
theorem execute (kept : CourseInvariant T) (depth : Nat) (line : String) (i : Immediate) :
    T i (i.execute depth line) (i.executeCourse depth line) := by
  induction depth generalizing line i with
  | zero => exact kept.unfinished i
  | succ depth ih =>
    unfold executeCourse
    cases collects : i.collects line with
    | true =>
      obtain ⟨outside, name, body, opened, dedented⟩ := collects_iff.1 collects
      rw [if_pos rfl, execute_of_collects outside opened dedented]
      exact kept.onRoutines _ (kept.done i)
    | false =>
      rw [if_neg (by simp), execute_of_closes collects]
      refine kept.congr (kept.dispatch ih line i.closing) ?_ ?_ ?_ <;>
        (unfold closing; split <;> rfl)

theorem statement (kept : CourseInvariant T) (line : String) (i : Immediate) :
    T i (i.count.statement line) (i.count.statementCourse line) :=
  kept.congr (kept.execute _ line i.count) rfl rfl rfl

theorem statements (kept : CourseInvariant T) (lines : List String) (i : Immediate) :
    T i (statements lines i) (scriptCourse lines i) := by
  induction lines generalizing i with
  | nil => exact kept.done i
  | cons line rest ih => exact kept.andThen (kept.statement line i) (ih _)

end CourseInvariant

/-! ## What a course accounts for -/

/-- The statements on the trace account for the reply: what they print was written, and there was a
crash if one of them has a number that is too long. -/
structure Traced (i : Immediate) (reply : Reply Immediate Unit)
    (trace : List (String × Immediate)) : Prop where
  output : reply.state.output.toList = i.output.toList ++ trace.flatMap fun s => s.2.prints s.1
  crashes : (∃ c, reply.result = .error (.crash c)) ↔
    ∃ s ∈ trace, ∃ count, s.2.Overlong s.1 count

namespace Traced

theorem refl (i : Immediate) : Traced i (.ok i ()) [] := by
  refine ⟨by simp [Reply.ok], ?_⟩
  constructor
  · rintro ⟨c, crashed⟩
    cases crashed
  · rintro ⟨s, member, -⟩
    cases member

theorem mapState (h : Traced i reply trace) {change : Immediate → Immediate}
    (output : ∀ i, (change i).output = i.output) : Traced i (reply.mapState change) trace := by
  refine ⟨?_, h.crashes⟩
  rw [Reply.mapState, output]
  exact h.output

/-- What comes next is added to the trace, unless there was a failure. -/
theorem andThen (h : Traced i reply trace) {next : Immediate → Reply Immediate Unit}
    {after : Immediate → List (String × Immediate)}
    (later : Traced reply.state (next reply.state) (after reply.state)) :
    Traced i (reply.andThen next) (trace ++ reply.goOn after) := by
  obtain ⟨s, result⟩ := reply
  cases result with
  | error f =>
    have nothing : trace ++ Reply.goOn ⟨s, .error f⟩ after = trace := List.append_nil trace
    rw [nothing]
    exact ⟨h.output, h.crashes⟩
  | ok _ =>
    have output : (next s).state.output.toList =
        s.output.toList ++ (after s).flatMap fun s => s.2.prints s.1 := later.output
    have fine : ¬ ∃ s ∈ trace, ∃ count, s.2.Overlong s.1 count := by
      rw [← h.crashes]
      rintro ⟨c, crashed⟩
      cases crashed
    have crashes : (∃ c, (next s).result = .error (.crash c)) ↔ _ := later.crashes
    refine ⟨?_, ?_⟩
    · change (next s).state.output.toList = _ ++ (trace ++ after s).flatMap _
      rw [output, show s.output.toList = _ from h.output, List.append_assoc, List.flatMap_append]
    · change (∃ c, (next s).result = .error (.crash c)) ↔ ∃ t ∈ trace ++ after s, _
      rw [crashes]
      constructor
      · rintro ⟨t, member, overlong⟩
        exact ⟨t, List.mem_append_right _ member, overlong⟩
      · rintro ⟨t, member, overlong⟩
        obtain before | member := List.mem_append.1 member
        · exact absurd ⟨t, before, overlong⟩ fine
        · exact ⟨t, member, overlong⟩

end Traced

theorem traced_invariant : CourseInvariant Traced where
  done := Traced.refl
  unfinished i := ⟨by simp, by simp⟩
  single act bare := by
    refine ⟨?_, ?_⟩
    · rw [output_dispatch bare, List.flatMap_singleton]
    · rw [crash_dispatch_iff bare]
      simp
  enter enters h := by
    refine ⟨?_, ?_⟩
    · rw [List.flatMap_cons, enters.prints_eq_nil, List.nil_append]
      exact h.output
    · rw [h.crashes]
      simp [enters.not_overlong]
  congr h output _ _ := ⟨output ▸ h.output, h.crashes⟩
  onRoutines _ h := h.mapState fun _ => rfl
  andThen h later := h.andThen later

/-- What a line comes down to before a fault is reported is accounted for by its course. -/
theorem exists_traced (text : String) (i : Immediate) :
    ∃ reply, Traced i reply (i.lineCourse text) ∧
      i.line text = reply.settle fun f i => i.onSession (·.report text f) := by
  unfold lineCourse Immediate.line
  split
  · have script := traced_invariant.statements (Text.scriptLines text) i
    exact ⟨_, script.mapState fun _ => Session.enter_output _ _, rfl⟩
  · exact ⟨_, traced_invariant.statement text i, rfl⟩

end Immediate

end LineLang
