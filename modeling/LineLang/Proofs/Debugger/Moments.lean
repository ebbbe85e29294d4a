import LineLang.Proofs.Debugger.Lines
import LineLang.Proofs.Debugger.Passage

/-!
# The moments of a session

`Serves` says how a session goes from line to line. Here it is followed from micro-step to
micro-step: `Rests` reaches the debuggers between two lines and `Sees` also those that a run passes,
whether it ends or not. Both note the states from which micro-steps were made so far, the `history`.

What every single thing that can happen in a session keeps (`SessionInvariant`) holds at every
moment of it (`Sees.holds`). Which lines may be typed is a parameter, `allowed`. The history of a
session that ends can be computed (`Rests.session`), and every session that ends has one
(`Serves.exists_rests`).
-/

namespace LineLang

namespace Debugger

variable {d d' e x y : Debugger} {t : Tick} {mode : RunMode} {depth : Nat} {text : String}
  {o : Outcome} {history passed states : List Debugger} {allowed : Debugger → String → Prop}
  {P : List Debugger → Debugger → Prop}

/-! ## Starts -/

/-- A start makes a micro-step from each state of the list, in this order, and ends. -/
inductive Traverses (mode : RunMode) (d : Debugger) : List Debugger → Debugger → Outcome → Prop
  | refuse (entered : d.entered? = none) : Traverses mode d [] d (.error (.fault .noProgram))
  | run {e last x : Debugger} {passed : List Debugger} {o : Outcome} (entered : d.entered? = some e)
      (passes : Passes mode e.routines.depth (e.begun mode) passed last)
      (concludes : Concludes mode e.routines.depth last x o) :
      Traverses mode d (passed ++ [last]) (x.ended o) o

theorem ends_iff_traverses : Ends mode d d' o ↔ ∃ states, Traverses mode d states d' o := by
  constructor
  · intro ends
    cases entered : d.entered? with
    | none =>
      obtain ⟨rfl, rfl⟩ := (ends_iff_of_entered_none entered).1 ends
      exact ⟨[], .refuse entered⟩
    | some e =>
      obtain ⟨x, runs, rfl⟩ := (ends_iff_runs entered).1 ends
      obtain ⟨passed, last, passes, concludes⟩ := runs_iff_passes.1 runs
      exact ⟨_, .run entered passes concludes⟩
  · rintro ⟨states, traverses⟩
    cases traverses with
    | refuse entered => exact (ends_iff_of_entered_none entered).2 ⟨rfl, rfl⟩
    | run entered passes concludes =>
      exact (ends_iff_runs entered).2 ⟨_, runs_iff_passes.2 ⟨_, _, passes, concludes⟩, rfl⟩

/-- Depends on nothing but the history, what a statement can read and the breakpoints, and is kept
by micro-steps. With each micro-step the history grows by the state before it. -/
structure StepInvariant (P : List Debugger → Debugger → Prop) : Prop where
  congr : ∀ {history : List Debugger} {x y : Debugger}, P history x → Alike y x →
    y.breakpoints = x.breakpoints → P history y
  tick : ∀ {history : List Debugger} {x y : Debugger} {t : Tick}, P history x → x.tick = (y, t) →
    P (history ++ [x]) y

namespace StepInvariant

theorem passes (kept : StepInvariant P) (first : P history d)
    (passes : Passes mode depth d passed x) : P (history ++ passed) x := by
  induction passes generalizing history with
  | refl => rwa [List.append_nil]
  | step tick _ _ _ ih =>
    have later := ih (kept.tick first tick)
    rwa [List.append_assoc] at later

/-- An invariant of micro-steps is kept by a start, from the frame on that it begins with. -/
theorem traverses (kept : StepInvariant P) (entered : d.entered? = some e) (first : P history e)
    (traverses : Traverses mode d states d' o) : P (history ++ states) d' := by
  cases traverses with
  | refuse refused => cases refused.symm.trans entered
  | @run e last x passed o entered' passes concludes =>
    cases entered'.symm.trans entered
    have before := kept.passes (kept.congr first (begun_alike mode e) rfl) passes
    rw [← List.append_assoc]
    cases concludes with
    | fail tick => exact kept.tick before tick
    | stop tick => exact kept.congr (kept.tick before tick) (stopped_alike x _) rfl

end StepInvariant

/-- Is kept by putting a program on the stack as well. -/
structure RunInvariant (P : List Debugger → Debugger → Prop) : Prop extends StepInvariant P where
  enter : ∀ {history : List Debugger} {x y : Debugger}, P history x → x.entered? = some y →
    P history y

namespace RunInvariant

theorem comesTo (kept : RunInvariant P) (first : P history d) (comes : ComesTo mode d passed x) :
    P (history ++ passed) x := by
  obtain ⟨e, entered, passes⟩ := comes
  have begun := kept.congr (kept.enter first entered) (begun_alike mode e) rfl
  exact kept.toStepInvariant.passes begun passes

theorem traverses (kept : RunInvariant P) (first : P history d)
    (traverses : Traverses mode d states d' o) : P (history ++ states) d' := by
  cases entered : d.entered? with
  | none =>
    cases traverses with
    | refuse => rwa [List.append_nil]
    | run entered' => cases entered.symm.trans entered'
  | some e =>
    exact kept.toStepInvariant.traverses entered (kept.enter first entered) traverses

end RunInvariant

/-! ## Sessions -/

/-- Lines that are allowed are typed one after the other, beginning with the debugger `d`. Each of
them ends, and the last leaves the debugger `x`. -/
inductive Rests (allowed : Debugger → String → Prop) (d : Debugger) :
    List Debugger → Debugger → Prop
  | fresh : Rests allowed d [] d
  | load {history : List Debugger} {x : Debugger} {text : String}
      (before : Rests allowed d history x) (fine : allowed x text) (waiting : x.phase = .waiting) :
      Rests allowed d history (settled text (x.load text)).state
  | execute {history : List Debugger} {x : Debugger} {text : String}
      (before : Rests allowed d history x) (fine : allowed x text) (ready : x.phase ≠ .waiting)
      (other : ∀ mode, commandOf? text ≠ some (.resume mode)) :
      Rests allowed d history (settled text (x.execute text)).state
  | resume {history states : List Debugger} {x y : Debugger} {text : String} {mode : RunMode}
      {o : Outcome} (before : Rests allowed d history x) (fine : allowed x text)
      (ready : x.phase ≠ .waiting) (command : commandOf? text = some (.resume mode))
      (traverses : Traverses mode x states y o) :
      Rests allowed d (history ++ states) (settled text ⟨y, o.map fun _ => ()⟩).state

/-- The debugger `x` is seen in a session of lines that are allowed: between two lines, or in the
midst of the run that a line has started. -/
inductive Sees (allowed : Debugger → String → Prop) (d : Debugger) : List Debugger → Debugger → Prop
  | between {history : List Debugger} {x : Debugger} (rests : Rests allowed d history x) :
      Sees allowed d history x
  | within {history passed : List Debugger} {x y : Debugger} {text : String} {mode : RunMode}
      (rests : Rests allowed d history x) (fine : allowed x text) (ready : x.phase ≠ .waiting)
      (command : commandOf? text = some (.resume mode)) (comes : ComesTo mode x passed y) :
      Sees allowed d (history ++ passed) y

/-! ## Histories can be computed -/

/-- The states from which a run makes micro-steps, at most `fuel` of them. -/
def statesOfRun (mode : RunMode) (depth : Nat) : Nat → Debugger → List Debugger
  | 0, _ => []
  | fuel + 1, d =>
    d :: match d.tick with
      | (_, .failed _) => []
      | (d, t) =>
        match d.stop? mode depth t with
        | some _ => []
        | none => statesOfRun mode depth fuel d

/-- The states from which a start makes micro-steps. -/
def statesOfStart (fuel : Nat) (mode : RunMode) (d : Debugger) : List Debugger :=
  match d.entered? with
  | none => []
  | some e => statesOfRun mode e.routines.depth fuel (e.begun mode)

/-- The states from which a line makes micro-steps. -/
def statesOfLine (fuel : Nat) (text : String) (d : Debugger) : List Debugger :=
  if d.phase = .waiting then []
  else
    match commandOf? text with
    | some (.resume mode) => statesOfStart fuel mode d
    | _ => []

section

variable (fuel : Nat)

theorem statesOfRun_of_failed {f : Failure} (tick : d.tick = (d', .failed f)) :
    statesOfRun mode depth (fuel + 1) d = [d] := by
  simp only [statesOfRun, tick]

theorem statesOfRun_of_stop {reason : StopReason} (tick : d.tick = (d', t))
    (pause : d'.stop? mode depth t = some reason) :
    statesOfRun mode depth (fuel + 1) d = [d] := by
  cases t with
  | failed f => cases pause
  | idle | returned | executed id => simp only [statesOfRun, tick, pause]

theorem statesOfRun_of_moved (tick : d.tick = (d', t)) (moved : t.Moved)
    (go : d'.stop? mode depth t = none) :
    statesOfRun mode depth (fuel + 1) d = d :: statesOfRun mode depth fuel d' := by
  cases t with
  | idle | failed f => exact moved.elim
  | returned | executed id => simp only [statesOfRun, tick, go]

end

theorem passes_statesOfRun {fuel : Nat} (h : runFrom mode depth fuel d = ⟨d', o⟩)
    (definite : o ≠ .error .unfinished) :
    ∃ passed last, statesOfRun mode depth fuel d = passed ++ [last] ∧
      Passes mode depth d passed last ∧ Concludes mode depth last d' o := by
  induction fuel generalizing d with
  | zero =>
    cases h
    exact absurd rfl definite
  | succ fuel ih =>
    rcases tick : d.tick with ⟨next, t⟩
    cases pause : next.stop? mode depth t with
    | some reason =>
      rw [runFrom_of_stop fuel tick pause] at h
      cases h
      exact ⟨[], d, statesOfRun_of_stop fuel tick pause, .refl d, .stop tick pause⟩
    | none =>
      cases t with
      | idle => cases pause
      | failed f =>
        rw [runFrom_of_failed fuel tick] at h
        cases h
        exact ⟨[], d, statesOfRun_of_failed fuel tick, .refl d, .fail tick⟩
      | returned | executed id =>
        rw [runFrom_of_moved fuel tick trivial pause] at h
        obtain ⟨passed, last, states, passes, concludes⟩ := ih h
        refine ⟨d :: passed, last, ?_, .step tick trivial pause passes, concludes⟩
        rw [statesOfRun_of_moved fuel tick trivial pause, states, List.cons_append]

/-- An invariant of micro-steps holds however many of them are made. -/
theorem StepInvariant.runFrom (kept : StepInvariant P) (first : P history d) (mode : RunMode)
    (depth fuel : Nat) :
    P (history ++ statesOfRun mode depth fuel d) (Debugger.runFrom mode depth fuel d).state := by
  induction fuel generalizing history d with
  | zero => rwa [statesOfRun, List.append_nil]
  | succ fuel ih =>
    rcases tick : d.tick with ⟨next, t⟩
    have step := kept.tick first tick
    cases pause : next.stop? mode depth t with
    | some reason =>
      rwa [runFrom_of_stop fuel tick pause, statesOfRun_of_stop fuel tick pause]
    | none =>
      cases t with
      | idle => cases pause
      | failed f => rwa [runFrom_of_failed fuel tick, statesOfRun_of_failed fuel tick]
      | returned | executed id =>
        rw [runFrom_of_moved fuel tick trivial pause, statesOfRun_of_moved fuel tick trivial pause,
          List.append_cons]
        exact ih step

theorem RunInvariant.start (kept : RunInvariant P) (first : P history d) (fuel : Nat)
    (mode : RunMode) :
    P (history ++ statesOfStart fuel mode d) (d.start fuel mode).state := by
  rw [start_eq]
  unfold statesOfStart
  cases entered : d.entered? with
  | none => rwa [List.append_nil]
  | some e =>
    have begun := kept.congr (kept.enter first entered) (begun_alike mode e) rfl
    have later := kept.toStepInvariant.runFrom begun mode e.routines.depth fuel
    simp only [run_eq]
    exact kept.congr later (ended_alike _ _) (breakpoints_ended _ _)

theorem traverses_statesOfStart {fuel : Nat}
    (definite : (d.start fuel mode).result ≠ .error .unfinished) :
    Traverses mode d (statesOfStart fuel mode d) (d.start fuel mode).state
      (d.start fuel mode).result := by
  rw [start_eq] at definite ⊢
  unfold statesOfStart
  cases entered : d.entered? with
  | none => exact .refuse entered
  | some e =>
    simp only [entered, run_eq] at definite ⊢
    obtain ⟨passed, last, states, passes, concludes⟩ := passes_statesOfRun rfl definite
    rw [states]
    exact .run entered passes concludes

/-- A line that starts no run makes no micro-steps. -/
theorem statesOfLine_of_other {fuel : Nat} (other : ∀ mode, commandOf? text ≠ some (.resume mode)) :
    statesOfLine fuel text d = [] := by
  unfold statesOfLine
  split
  · rfl
  · split
    · next mode command => exact absurd command (other mode)
    · rfl

/-- A line that is allowed leads on, if it ends. -/
theorem Rests.line {fuel : Nat} (rests : Rests allowed d history x) (fine : allowed x text)
    (definite : (x.line fuel text).result ≠ .error .unfinished) :
    Rests allowed d (history ++ statesOfLine fuel text x) (x.line fuel text).state := by
  by_cases waiting : x.phase = .waiting
  · rw [statesOfLine, if_pos waiting, List.append_nil, Debugger.line, if_pos waiting]
    exact .load rests fine waiting
  · rw [Debugger.line, if_neg waiting] at definite ⊢
    by_cases resume : ∃ mode, commandOf? text = some (.resume mode)
    · obtain ⟨mode, command⟩ := resume
      rw [statement_of_resume command] at definite ⊢
      rw [statesOfLine, if_neg waiting, command]
      refine .resume rests fine waiting command (traverses_statesOfStart fun unfinished => ?_)
      simp only [Reply.void, unfinished] at definite
      exact definite rfl
    · have other := not_exists.1 resume
      rw [statement_of_other other, statesOfLine_of_other other, List.append_nil]
      exact .execute rests fine waiting other

/-- The debugger after every line of a session is reached. -/
theorem Serves.exists_rests {turns : List Turn} (serves : Serves x turns)
    (fine : ∀ t ∈ turns, allowed t.before t.text) (rests : Rests allowed d history x) :
    ∀ t ∈ turns, ∃ history, Rests allowed d history t.after := by
  induction serves generalizing history with
  | done => simp
  | @turn t turns answers _ ih =>
    obtain ⟨definite, fuel, answered⟩ := answers
    have after := rests.line (fine t List.mem_cons_self) (by rwa [answered])
    rw [answered] at after
    intro t' member
    obtain rfl | member := List.mem_cons.1 member
    · exact ⟨_, after⟩
    · exact ih (fun t member => fine t (List.mem_cons_of_mem _ member)) after t' member

/-- The states from which the lines of a session make micro-steps. -/
def statesOfSession (fuel : Nat) (lines : List String) (d : Debugger) : List Debugger :=
  (session fuel lines d).flatMap fun t => statesOfLine fuel t.text t.before

/-- The debugger after a session. -/
def afterSession (fuel : Nat) (lines : List String) (d : Debugger) : Debugger :=
  lines.foldl (fun d text => (d.line fuel text).state) d

theorem Rests.session {fuel : Nat} {lines : List String} (rests : Rests allowed d history x)
    (definite : ∀ t ∈ session fuel lines x, t.answer ≠ .error .unfinished)
    (fine : ∀ t ∈ session fuel lines x, allowed t.before t.text) :
    Rests allowed d (history ++ statesOfSession fuel lines x) (afterSession fuel lines x) := by
  induction lines generalizing history x with
  | nil => rwa [statesOfSession, Debugger.session, List.flatMap_nil, List.append_nil]
  | cons text rest ih =>
    have first := rests.line (fine _ List.mem_cons_self) (definite _ List.mem_cons_self)
    have later := ih first (fun t member => definite t (List.mem_cons_of_mem _ member))
      fun t member => fine t (List.mem_cons_of_mem _ member)
    rwa [List.append_assoc] at later

/-! ## Invariants of sessions -/

/-- Is kept by runs, and by every line that is allowed. -/
structure SessionInvariant (allowed : Debugger → String → Prop)
    (P : List Debugger → Debugger → Prop) : Prop extends RunInvariant P where
  load : ∀ {history : List Debugger} {x : Debugger} (text : String), P history x →
    P history (x.load text).state
  execute : ∀ {history : List Debugger} {x : Debugger} {text : String}, P history x →
    allowed x text → x.phase ≠ .waiting → P history (x.execute text).state

theorem Rests.holds (kept : SessionInvariant allowed P) (first : P [] d)
    (rests : Rests allowed d history x) : P history x := by
  induction rests with
  | fresh => exact first
  | load _ _ _ ih =>
    exact kept.congr (kept.load _ ih) (settled_alike _ _) (breakpoints_settled _ _)
  | execute _ fine ready _ ih =>
    exact kept.congr (kept.execute ih fine ready) (settled_alike _ _) (breakpoints_settled _ _)
  | resume _ _ _ _ traverses ih =>
    exact kept.congr (kept.toRunInvariant.traverses ih traverses) (settled_alike _ ⟨_, _⟩)
      (breakpoints_settled _ ⟨_, _⟩)

/-- An invariant is kept by a line, whether or not it ends within the bound. -/
theorem SessionInvariant.line (kept : SessionInvariant allowed P) (first : P history d)
    (fine : allowed d text) (fuel : Nat) :
    P (history ++ statesOfLine fuel text d) (d.line fuel text).state := by
  by_cases waiting : d.phase = .waiting
  · rw [statesOfLine, if_pos waiting, List.append_nil, Debugger.line, if_pos waiting]
    exact kept.congr (kept.load text first) (settled_alike _ _) (breakpoints_settled _ _)
  · rw [Debugger.line, if_neg waiting]
    by_cases resume : ∃ mode, commandOf? text = some (.resume mode)
    · obtain ⟨mode, command⟩ := resume
      rw [statement_of_resume command, statesOfLine, if_neg waiting, command]
      exact kept.congr (kept.toRunInvariant.start first fuel mode) (settled_alike _ (Reply.void _))
        (breakpoints_settled _ (Reply.void _))
    · have other := not_exists.1 resume
      rw [statement_of_other other, statesOfLine_of_other other, List.append_nil]
      exact kept.congr (kept.execute first fine waiting) (settled_alike _ _)
        (breakpoints_settled _ _)

/-- An invariant holds after every session of lines that are allowed. -/
theorem SessionInvariant.session (kept : SessionInvariant allowed P) (fuel : Nat)
    (lines : List String) (history : List Debugger) (first : P history d)
    (fine : ∀ t ∈ session fuel lines d, allowed t.before t.text) :
    P (history ++ statesOfSession fuel lines d) (afterSession fuel lines d) := by
  induction lines generalizing history d with
  | nil => rwa [statesOfSession, Debugger.session, List.flatMap_nil, List.append_nil]
  | cons text rest ih =>
    have next := kept.line first (fine _ List.mem_cons_self) fuel
    have later := ih _ next fun t member => fine t (List.mem_cons_of_mem _ member)
    rwa [List.append_assoc] at later

/-- An invariant holds at every moment of a session. -/
theorem Sees.holds (kept : SessionInvariant allowed P) (first : P [] d)
    (seen : Sees allowed d history x) : P history x := by
  cases seen with
  | between rests => exact rests.holds kept first
  | within rests _ _ _ comes => exact kept.toRunInvariant.comesTo (rests.holds kept first) comes

end Debugger

end LineLang
