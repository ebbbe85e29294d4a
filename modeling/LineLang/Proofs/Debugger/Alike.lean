import LineLang.Proofs.Debugger.Effect

/-!
# What a running program can see

A statement of a program reads the variables, the routines with their pointers, the stack and the
phase. It never reads the breakpoints, the lines written so far, the log or the reason of the last
stop. `Alike` says that two debuggers agree on all that a statement can read, and `tick_abreast`
that a micro-step then does the same to both: it writes the same lines, and the debuggers are alike
again.
-/

namespace LineLang

namespace Debugger

variable {d e d' e' d'' e'' : Debugger}

/-- The two debuggers agree on everything that a statement of a program can read. -/
structure Alike (d e : Debugger) : Prop where
  vars : d.vars = e.vars
  routines : d.routines = e.routines
  phase : d.phase = e.phase
  requested : d.requested = e.requested
  strict : d.strict = e.strict
  loads : d.loads = e.loads

namespace Alike

theorem refl (d : Debugger) : Alike d d :=
  ⟨rfl, rfl, rfl, rfl, rfl, rfl⟩

theorem symm (h : Alike d e) : Alike e d :=
  ⟨h.vars.symm, h.routines.symm, h.phase.symm, h.requested.symm, h.strict.symm, h.loads.symm⟩

theorem trans (h : Alike d e) (h' : Alike e d') : Alike d d' :=
  ⟨h.vars.trans h'.vars, h.routines.trans h'.routines, h.phase.trans h'.phase,
    h.requested.trans h'.requested, h.strict.trans h'.strict, h.loads.trans h'.loads⟩

end Alike

/-- From alike debuggers `d` and `e` the same was done to reach `d'` and `e'`. Breakpoints and the
reason of the last stop stay equal if they were. -/
structure Abreast (d e d' e' : Debugger) : Prop where
  alike : Alike d' e'
  written : ∃ lines, d'.output = d.output.addAll lines ∧ e'.output = e.output.addAll lines
  breakpoints : d.breakpoints = e.breakpoints → d'.breakpoints = e'.breakpoints
  lastStop : d.lastStop = e.lastStop → d'.lastStop = e'.lastStop

namespace Abreast

theorem refl (h : Alike d e) : Abreast d e d e :=
  ⟨h, ⟨[], rfl, rfl⟩, id, id⟩

theorem trans (h : Abreast d e d' e') (h' : Abreast d' e' d'' e'') : Abreast d e d'' e'' := by
  obtain ⟨first, hd, he⟩ := h.written
  obtain ⟨second, hd', he'⟩ := h'.written
  refine ⟨h'.alike, ⟨first ++ second, ?_, ?_⟩, h'.breakpoints ∘ h.breakpoints,
    h'.lastStop ∘ h.lastStop⟩
  · rw [hd', hd, Record.addAll, Record.addAll, Record.addAll, List.foldl_append]
  · rw [he', he, Record.addAll, Record.addAll, Record.addAll, List.foldl_append]

theorem exists_output (h : Abreast d e d' e') :
    ∃ lines, d'.output.toList = d.output.toList ++ lines := by
  obtain ⟨lines, written, -⟩ := h.written
  exact ⟨lines, by rw [written, Record.toList_addAll]⟩

/-- What is not written and not kept as a breakpoint or a reason can be changed alike on both
sides. -/
theorem onRoutines (h : Alike d e) (change : Routines RoutineId → Routines RoutineId) :
    Abreast d e (d.onRoutines change) (e.onRoutines change) :=
  ⟨⟨h.vars, congrArg change h.routines, h.phase, h.requested, h.strict, h.loads⟩,
    ⟨[], rfl, rfl⟩, id, id⟩

theorem write (h : Alike d e) (lines : List String) :
    Abreast d e (d.onSession (·.write lines)) (e.onSession (·.write lines)) :=
  ⟨⟨h.vars, h.routines, h.phase, h.requested, h.strict, h.loads⟩, ⟨lines, rfl, rfl⟩, id, id⟩

theorem setVariables (h : Alike d e) (vars : Variables) :
    Abreast d e { d with vars } { e with vars } :=
  ⟨⟨rfl, h.routines, h.phase, h.requested, h.strict, h.loads⟩, ⟨[], rfl, rfl⟩, id, id⟩

end Abreast

/-! ## Replies -/

/-- Two replies with one result, whose states were reached in the same way. -/
abbrev SameReply (d e : Debugger) : Reply Debugger Unit → Reply Debugger Unit → Prop :=
  Reply.Related (Abreast d e)

/-! ## Commands -/

theorem enter_abreast (h : Alike d e) (phase : Phase) :
    Abreast d e (d.onSession (·.enter phase)) (e.onSession (·.enter phase)) := by
  simp only [onSession, Session.enter, h.phase]
  split
  · exact .refl h
  · exact ⟨⟨h.vars, h.routines, rfl, h.requested, h.strict, h.loads⟩, ⟨[], rfl, rfl⟩, id, id⟩

theorem setRequested_abreast (h : Alike d e) (requested : Bool) :
    Abreast d e { d with requested } { e with requested } :=
  ⟨⟨h.vars, h.routines, h.phase, rfl, h.strict, h.loads⟩, ⟨[], rfl, rfl⟩, id, id⟩

theorem positionOr_congr (h : Alike d e) (outside : Option Int) :
    d.positionOr outside = e.positionOr outside := by
  simp only [Workspace.positionOr, h.routines]

/-- Commands on variables see only the variables and the position. -/
theorem variableCommand_sameReply (h : Alike d e) (args : List String) (c : VariableCommand) :
    SameReply d e (d.perform args (.session (.onVariables c)))
      (e.perform args (.session (.onVariables c))) := by
  apply Reply.Related.ofExcept (.refl h)
  simp only [SessionCommand.perform_onVariables, positionOr_congr h, h.vars]
  cases c.perform args (e.positionOr none) e.vars with
  | error f => exact .inl ⟨f, rfl, rfl⟩
  | ok effect =>
    obtain ⟨vars, lines⟩ := effect
    refine .inr ⟨_, _, rfl, rfl, ?_⟩
    exact (Abreast.setVariables h vars).trans (.write (Abreast.setVariables h vars).alike lines)

/-- The brackets around code see only the phase and the request. -/
theorem codeBracket_sameReply (h : Alike d e) (args : List String) (c : SessionCommand)
    (bracket : c = .setCode ∨ c = .endSetCode) :
    SameReply d e (d.perform args (.session c)) (e.perform args (.session c)) := by
  apply Reply.Related.ofExcept (.refl h)
  obtain rfl | rfl := bracket
  · have requested := setRequested_abreast h true
    exact .inr ⟨_, _, rfl, rfl, requested.trans (enter_abreast requested.alike .waiting)⟩
  · have same : (d.strict && !d.requested) = (e.strict && !e.requested) := by
      rw [h.strict, h.requested]
    simp only [SessionCommand.perform, Session.endCode]
    rw [same]
    split
    · exact .inl ⟨_, rfl, rfl⟩
    · have closed := setRequested_abreast h false
      exact .inr ⟨_, _, rfl, rfl, closed.trans (enter_abreast closed.alike .ready)⟩

theorem skipBody_sameReply (h : Alike d e) : SameReply d e d.skipBody e.skipBody := by
  unfold Debugger.skipBody
  rw [h.routines]
  cases e.routines.top? with
  | none => exact ⟨rfl, .refl h⟩
  | some id =>
    exact ⟨rfl, .onRoutines h (·.modify id fun _ => (e.routines.routine id).skipBody.state)⟩

theorem call_sameReply (h : Alike d e) (args : List String) :
    SameReply d e (.ofExcept d (d.call args)) (.ofExcept e (e.call args)) := by
  have same (name : String) : d.function name = e.function name := by
    simp only [Workspace.function, h.routines]
  apply Reply.Related.ofExcept (.refl h)
  simp only [call_eq, same]
  cases readName args[0]? with
  | error f => exact .inl ⟨_, rfl, rfl⟩
  | ok name =>
    dsimp only
    cases e.function name with
    | error f => exact .inl ⟨_, rfl, rfl⟩
    | ok r => exact .inr ⟨_, _, rfl, rfl, .onRoutines h _⟩

theorem addBreak_sameReply (h : Alike d e) (args : List String) :
    SameReply d e (.ofExcept d (d.addBreak args)) (.ofExcept e (e.addBreak args)) := by
  apply Reply.Related.ofExcept (.refl h)
  simp only [addBreak_eq]
  cases convertValue args[0]? with
  | error f => exact .inl ⟨_, rfl, rfl⟩
  | ok position =>
    refine .inr ⟨_, _, rfl, rfl, ?_, ⟨[], rfl, rfl⟩, ?_, id⟩
    · exact ⟨h.vars, h.routines, h.phase, h.requested, h.strict, h.loads⟩
    · exact fun same => congrArg (placeAscending position) same

theorem printTrace_abreast (h : Alike d e) : Abreast d e d.printTrace e.printTrace := by
  unfold Debugger.printTrace
  rw [h.routines]
  exact .write h _

theorem perform_sameReply (h : Alike d e) (args : List String) (c : Command) :
    SameReply d e (d.perform args c) (e.perform args c) := by
  cases c with
  | session c =>
    cases c with
    | onVariables c => exact variableCommand_sameReply h args c
    | setCode => exact codeBracket_sameReply h args _ (.inl rfl)
    | endSetCode => exact codeBracket_sameReply h args _ (.inr rfl)
  | skipBody => exact skipBody_sameReply h
  | call => exact call_sameReply h args
  | resume mode =>
    refine ⟨rfl, ?_, ⟨[], rfl, rfl⟩, id, fun _ => rfl⟩
    exact ⟨h.vars, h.routines, h.phase, h.requested, h.strict, h.loads⟩
  | addBreak => exact addBreak_sameReply h args
  | printTrace => exact ⟨rfl, printTrace_abreast h⟩

theorem execute_sameReply (h : Alike d e) (line : String) :
    SameReply d e (d.execute line) (e.execute line) := by
  exact repertoire.dispatch_related (.refl h) (perform_sameReply h) line

/-! ## Micro-steps -/

theorem leave_abreast (h : Alike d e) (id : RoutineId) :
    Abreast d e (d.leave id) (e.leave id) := by
  have left := Abreast.onRoutines h fun rs => (rs.modify id Routine.rewind).pop
  have same : (d.onRoutines fun rs => (rs.modify id Routine.rewind).pop).routines.stack.isEmpty =
      (e.onRoutines fun rs => (rs.modify id Routine.rewind).pop).routines.stack.isEmpty := by
    rw [left.alike.routines]
  unfold leave
  dsimp only
  rw [same]
  split
  · exact left.trans (.setVariables left.alike {})
  · exact left

theorem tick_same (h : Alike d e) : e.tick.2 = d.tick.2 ∧ Abreast d e d.tick.1 e.tick.1 := by
  unfold tick
  rw [h.routines]
  cases e.routines.top? with
  | none => exact ⟨rfl, .refl h⟩
  | some id =>
    dsimp only
    split
    · exact ⟨rfl, leave_abreast h id⟩
    · cases (e.routines.routine id).statement? with
      | none => exact ⟨rfl, .refl h⟩
      | some line =>
        have same := execute_sameReply h line
        dsimp only
        rw [same.result]
        cases (e.execute line).result with
        | error f => exact ⟨rfl, same.state⟩
        | ok _ =>
          dsimp only
          exact ⟨rfl, same.state.trans (.onRoutines same.state.alike _)⟩

/-- A micro-step does the same to debuggers that are alike. -/
theorem tick_abreast (h : Alike d e) {t : Tick} (tick : d.tick = (d', t)) :
    ∃ e', e.tick = (e', t) ∧ Abreast d e d' e' := by
  obtain ⟨same, abreast⟩ := tick_same h
  rw [tick] at same abreast
  exact ⟨e.tick.1, Prod.ext rfl same, abreast⟩

end Debugger

end LineLang
