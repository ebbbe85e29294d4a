import LineLang.Proofs.Debugger.Runs

/-!
# Running is stepping

Stepping again and again, up to the first step that ends with anything but the word that it was a
step, does what one run does: it ends with the same reason or failure, in the same state but for
the log, and it writes the same lines (`ends_run_iff_stepsTo`).

The proof goes through `StepChain`, where the steps follow each other without the notes that a start
makes when it begins and ends. A chain is a run that is cut after every statement.
-/

namespace LineLang

namespace Debugger

variable {d d' d'' e s x y last : Debugger} {o : Outcome} {mode : RunMode} {j k : Nat} {t : Tick}
  {lines : List String}

/-- The debugger without its log. -/
def unlogged (d : Debugger) : Debugger :=
  { d with log := {} }

/-- Between the first debugger and the second the lines were written. -/
def Wrote (d d' : Debugger) (lines : List String) : Prop :=
  d'.output.toList = d.output.toList ++ lines

/-- Steps are made from the first debugger on. The first of them that does not end as a step leads
to the second debugger and ends with the outcome; together they write the lines. -/
inductive StepsTo : Debugger → Debugger → Outcome → List String → Prop
  | last {d d' : Debugger} {o : Outcome} {lines : List String} (ends : Ends .step d d' o)
      (other : o ≠ .ok .step) (wrote : Wrote d d' lines) : StepsTo d d' o lines
  | more {d d' d'' : Debugger} {o : Outcome} {lines lines' : List String}
      (ends : Ends .step d d' (.ok .step)) (wrote : Wrote d d' lines)
      (rest : StepsTo d' d'' o lines') : StepsTo d d'' o (lines ++ lines')

theorem StepsTo.wrote (h : StepsTo d d' o lines) : Wrote d d' lines := by
  induction h with
  | last _ _ wrote => exact wrote
  | more _ wrote _ ih => exact ih.trans (by rw [wrote, List.append_assoc])

/-! ## Where a step stops and a run does not -/

theorem stop?_of_ne_stepOver (h : mode ≠ .stepOver) (j k : Nat) (d : Debugger) (t : Tick) :
    d.stop? mode j t = d.stop? mode k t := by
  cases t <;> simp [stop?, h]

theorem stop?_step_of_run {reason : StopReason} (h : d.stop? .run j t = some reason) :
    d.stop? .step k t = some reason := by
  cases t with
  | executed id => simp only [stop?] at h ⊢; grind
  | idle => exact h
  | returned | failed f => simp [stop?] at h

theorem stop?_run_of_step {reason : StopReason} (h : d.stop? .step k t = some reason)
    (other : reason ≠ .step) : d.stop? .run j t = some reason := by
  cases t with
  | executed id => simp only [stop?] at h ⊢; grind
  | idle => exact h
  | returned | failed f => simp [stop?] at h

theorem stop?_run_of_step_none (h : d.stop? .step k t = none) : d.stop? .run j t = none := by
  cases t with
  | executed id => simp only [stop?] at h ⊢; grind
  | idle => cases h
  | returned | failed f => simp [stop?]

/-- Where a run goes on, a step goes on after a return and stops after a statement. -/
theorem stop?_step_of_run_none (h : d.stop? .run j t = none) (moved : t.Moved) :
    d.stop? .step k t = none ∨ d.stop? .step k t = some .step := by
  cases t with
  | executed id => simp only [stop?] at h ⊢; grind
  | returned => exact .inl (by simp [stop?])
  | idle | failed f => cases moved

/-! ## Chains of steps -/

/-- Steps follow each other up to the first that does not end as a step. The number of frames makes
no difference to a step. -/
inductive StepChain : Debugger → Debugger → Outcome → Prop
  | last {d d' : Debugger} {o : Outcome} (runs : Runs .step 0 d d' o) (other : o ≠ .ok .step) :
      StepChain d d' o
  | more {d d' d'' : Debugger} {o : Outcome} (runs : Runs .step 0 d d' (.ok .step))
      (rest : StepChain d' d'' o) : StepChain d d'' o

theorem Runs.stepDepth (h : Runs .step j d d' o) (k : Nat) : Runs .step k d d' o := by
  have same : ∀ d t, stop? .step j d t = stop? .step k d t := stop?_of_ne_stepOver (by simp) j k
  induction h with
  | fail tick => exact .fail tick
  | stop tick pause => exact .stop tick (by rw [← same, pause])
  | more tick moved on _ ih => exact .more tick moved (by rw [← same, on]) ih

/-- A micro-step after which a step goes on can be put in front of a chain. -/
theorem StepChain.cons (tick : d.tick = (d', t)) (moved : t.Moved)
    (on : d'.stop? .step 0 t = none) (h : StepChain d' d'' o) : StepChain d d'' o := by
  cases h with
  | last runs other => exact .last (.more tick moved on runs) other
  | more runs rest => exact .more (.more tick moved on runs) rest

theorem Runs.stepChain (h : Runs .run j d d' o) : StepChain d d' o := by
  induction h with
  | fail tick => exact .last (.fail tick) (by simp)
  | @stop d d' t reason tick pause =>
    refine .last (.stop tick (stop?_step_of_run pause)) ?_
    rintro same
    cases same
    cases t <;> simp only [stop?] at pause <;> grind
  | more tick moved on _ ih =>
    obtain step | step := stop?_step_of_run_none (k := 0) on moved
    · exact .cons tick moved step ih
    · exact .more (.stop tick step) ih

/-- What a step does is the beginning of a run. -/
theorem Runs.run_of_step (h : Runs .step 0 d d' o) :
    (o ≠ .ok .step → Runs .run j d d' o) ∧
      (o = .ok .step → ∀ d'' o', Runs .run j d' d'' o' → Runs .run j d d'' o') := by
  induction h with
  | fail tick => exact ⟨fun _ => .fail tick, fun same => by cases same⟩
  | @stop d d' t reason tick pause =>
    constructor
    · intro other
      exact .stop tick (stop?_run_of_step pause fun same => other (by rw [same]))
    · intro same d'' o' rest
      cases same
      cases t with
      | executed id =>
        have on : d'.stop? .run j (.executed id) = none := by
          simp only [stop?] at pause ⊢
          grind
        exact .more tick trivial on rest
      | idle | returned | failed f => simp [stop?] at pause
  | more tick moved on _ ih =>
    have on' := stop?_run_of_step_none (j := j) on
    exact ⟨fun other => .more tick moved on' (ih.1 other),
      fun same d'' o' rest => .more tick moved on' (ih.2 same d'' o' rest)⟩

theorem StepChain.runs (h : StepChain d d' o) (j : Nat) : Runs .run j d d' o := by
  induction h with
  | last runs other => exact runs.run_of_step.1 other
  | more runs _ ih => exact runs.run_of_step.2 rfl _ _ ih

/-! ## Twins -/

/-- The two debuggers differ in their logs only. -/
structure Twin (d e : Debugger) : Prop where
  alike : Alike d e
  output : d.output = e.output
  breakpoints : d.breakpoints = e.breakpoints
  lastStop : d.lastStop = e.lastStop

theorem twin_iff_unlogged : Twin d e ↔ d.unlogged = e.unlogged := by
  obtain ⟨⟨⟨_, _⟩, _, _, _, _, _⟩, _, _, _⟩ := d
  obtain ⟨⟨⟨_, _⟩, _, _, _, _, _⟩, _, _, _⟩ := e
  constructor
  · rintro ⟨⟨⟩, ⟨⟩, ⟨⟩, ⟨⟩⟩
    simp_all [unlogged]
  · intro same
    simp only [unlogged, Debugger.mk.injEq, Session.mk.injEq, Workspace.mk.injEq] at same
    obtain ⟨⟨⟨rfl, rfl⟩, rfl, rfl, rfl, rfl, -⟩, rfl, rfl, rfl⟩ := same
    exact ⟨⟨rfl, rfl, rfl, rfl, rfl, rfl⟩, rfl, rfl, rfl⟩

namespace Twin

theorem trans (h : Twin d e) (h' : Twin e x) : Twin d x :=
  twin_iff_unlogged.2 ((twin_iff_unlogged.1 h).trans (twin_iff_unlogged.1 h'))

theorem symm (h : Twin d e) : Twin e d :=
  twin_iff_unlogged.2 (twin_iff_unlogged.1 h).symm

theorem of_abreast (h : Twin d e) (abreast : Abreast d e d' x) : Twin d' x := by
  obtain ⟨lines, written, written'⟩ := abreast.written
  exact ⟨abreast.alike, by rw [written, written', h.output], abreast.breakpoints h.breakpoints,
    abreast.lastStop h.lastStop⟩

theorem ended (h : Twin d e) (o : Outcome) : Twin (d.ended o) (e.ended o) := by
  cases o with
  | error f => exact h
  | ok reason =>
    have alike := ((stopped_alike d reason).trans h.alike).trans (stopped_alike e reason).symm
    exact ⟨alike, h.output, h.breakpoints, rfl⟩

/-- The notes of a start are undone by the next start, apart from the log. -/
theorem begun_stopped (h : Twin d e) (clear : e.lastStop = none) (reason : StopReason) :
    Twin ((d.stopped reason).begun mode) e := by
  have alike := ((begun_alike mode _).trans (stopped_alike d reason)).trans h.alike
  exact ⟨alike, h.output, h.breakpoints, clear.symm⟩

/-- Twins run in the same way. -/
theorem runs (h : Twin d e) (runs : Runs mode j d d' o) :
    ∃ e', Runs mode j e e' o ∧ Twin d' e' := by
  obtain ⟨e', runs', abreast⟩ := runs.abreast h.alike h.breakpoints
  exact ⟨e', runs', h.of_abreast abreast⟩

end Twin

/-! ## Steps as starts -/

theorem Ends.exists_wrote (h : Ends mode d d' o) : ∃ lines, Wrote d d' lines := by
  cases entered : d.entered? with
  | none =>
    obtain ⟨rfl, -⟩ := (ends_iff_of_entered_none entered).1 h
    exact ⟨[], (List.append_nil _).symm⟩
  | some e =>
    obtain ⟨last, runs, rfl⟩ := (ends_iff_runs entered).1 h
    obtain ⟨lines, written⟩ := runs.exists_output
    refine ⟨lines, ?_⟩
    rw [Wrote, output_ended, written, ← output_of_entered entered]
    rfl

theorem ends_step_iff (entered : d.entered? = some e) :
    Ends .step d d' o ↔ ∃ last, Runs .step 0 (e.begun .step) last o ∧ d' = last.ended o := by
  rw [ends_iff_runs entered]
  constructor
  · rintro ⟨last, runs, same⟩
    exact ⟨last, runs.stepDepth 0, same⟩
  · rintro ⟨last, runs, same⟩
    exact ⟨last, runs.stepDepth _, same⟩

/-- A step that ends as a step leaves a frame, so that the next start goes on in it. -/
theorem entered?_of_step (h : Runs .step 0 d d' (.ok .step)) :
    (d'.stopped .step).entered? = some (d'.stopped .step) := by
  apply entered?_of_stack_ne_nil
  exact (h.stepDepth 1).stack_of_paused (by simp) (by simp)

/-- The steps of a chain can be made as starts. -/
theorem StepChain.stepsTo (h : StepChain x last o) (entered : s.entered? = some e)
    (twin : Twin (e.begun .step) x) :
    ∃ d lines, StepsTo s d o lines ∧ Twin d (last.ended o) := by
  induction h generalizing s e with
  | last runs other =>
    obtain ⟨last', runs', twin'⟩ := twin.symm.runs runs
    have ends := (ends_step_iff entered).2 ⟨last', runs', rfl⟩
    obtain ⟨lines, wrote⟩ := ends.exists_wrote
    exact ⟨_, lines, .last ends other wrote, (twin'.ended _).symm⟩
  | more runs _ ih =>
    obtain ⟨y', runs', twin'⟩ := twin.symm.runs runs
    have ends := (ends_step_iff entered).2 ⟨y', runs', rfl⟩
    obtain ⟨lines, wrote⟩ := ends.exists_wrote
    have clear := runs'.lastStop_eq_none rfl
    rw [← twin'.lastStop] at clear
    obtain ⟨d, lines', steps, twin''⟩ :=
      ih (entered?_of_step runs') (twin'.symm.begun_stopped clear .step)
    exact ⟨d, lines ++ lines', .more ends wrote steps, twin''⟩

/-- Steps that are made as starts form a chain. -/
theorem StepsTo.stepChain (h : StepsTo s d o lines) (entered : s.entered? = some e)
    (twin : Twin (e.begun .step) x) : ∃ last, StepChain x last o ∧ Twin d (last.ended o) := by
  induction h generalizing e x with
  | last ends other _ =>
    obtain ⟨last, runs, rfl⟩ := (ends_step_iff entered).1 ends
    obtain ⟨last', runs', twin'⟩ := twin.runs runs
    exact ⟨last', .last runs' other, twin'.ended _⟩
  | more ends _ _ ih =>
    obtain ⟨y, runs, rfl⟩ := (ends_step_iff entered).1 ends
    obtain ⟨y', runs', twin'⟩ := twin.runs runs
    have clear := runs.lastStop_eq_none rfl
    rw [twin'.lastStop] at clear
    obtain ⟨last, chain, twin''⟩ :=
      ih (entered?_of_step runs) (twin'.begun_stopped clear .step)
    exact ⟨last, .more runs' chain, twin''⟩

theorem begun_twin (mode mode' : RunMode) (d : Debugger) : Twin (d.begun mode) (d.begun mode') :=
  ⟨(begun_alike mode d).trans (begun_alike mode' d).symm, rfl, rfl, rfl⟩

theorem stepsTo_iff_of_entered_none (entered : s.entered? = none) :
    StepsTo s d o lines ↔ Ends .run s d o ∧ Wrote s d lines := by
  rw [ends_iff_of_entered_none entered]
  constructor
  · intro h
    cases h with
    | last ends _ wrote => exact ⟨(ends_iff_of_entered_none entered).1 ends, wrote⟩
    | more ends => cases ((ends_iff_of_entered_none entered).1 ends).2
  · rintro ⟨ended, wrote⟩
    refine .last ((ends_iff_of_entered_none entered).2 ended) ?_ wrote
    rw [ended.2]
    simp

/-- A run ends in a state, with an outcome and with lines written, if and only if steps up to the
first that does not end as a step do so. Only the logs differ. -/
theorem ends_run_iff_stepsTo (s s' : Debugger) (o : Outcome) (lines : List String) :
    (∃ d, Ends .run s d o ∧ Wrote s d lines ∧ d.unlogged = s'.unlogged) ↔
      ∃ d, StepsTo s d o lines ∧ d.unlogged = s'.unlogged := by
  cases entered : s.entered? with
  | none => simp only [stepsTo_iff_of_entered_none entered, and_assoc]
  | some e =>
    constructor
    · rintro ⟨d, ends, wrote, same⟩
      obtain ⟨last, runs, rfl⟩ := (ends_iff_runs entered).1 ends
      obtain ⟨d, lines', steps, twin⟩ := runs.stepChain.stepsTo entered (begun_twin .step .run e)
      have wrote' := steps.wrote
      rw [Wrote, twin.output, wrote] at wrote'
      obtain rfl := List.append_cancel_left wrote'
      exact ⟨d, steps, (twin_iff_unlogged.1 twin).trans same⟩
    · rintro ⟨d, steps, same⟩
      obtain ⟨last, chain, twin⟩ := steps.stepChain entered (begun_twin .step .run e)
      refine ⟨last.ended o, (ends_iff_runs entered).2 ⟨last, chain.runs _, rfl⟩, ?_, ?_⟩
      · rw [Wrote, ← twin.output]
        exact steps.wrote
      · exact (twin_iff_unlogged.1 twin).symm.trans same

end Debugger

end LineLang
