import LineLang.Proofs.Debugger.Moments
import LineLang.Proofs.Debugger.Retrying
import LineLang.Proofs.Session.Past

/-!
# Lines that disturb nothing

A line that fails, and a line that only shows something, leaves nothing behind but what it has
written and noted (`Spoken`), as long as it starts no run and is not taken as code. What was written
and noted has no influence on later lines. So such lines can be put anywhere into a session, and
every other line of it is answered in the same way and writes the same
(`quiet_lines_disturb_nothing`).
-/

namespace LineLang

namespace Debugger

variable {d e : Debugger} {text : String} {fuel : Nat} {f : Fault}

/-! ## Turns without a past -/

/-- The debugger with nothing written and nothing noted. -/
def unrecorded (d : Debugger) : Debugger :=
  d.onSession fun s => { s with output := {}, log := {} }

/-- What the debugger has written and noted. -/
def past (d : Debugger) : Past :=
  { output := d.output, log := d.log }

theorem unrecorded_after_past (d : Debugger) : d.unrecorded.after d.past = d := rfl

/-- One line is typed, with at most `fuel` micro-steps. -/
def turn (fuel : Nat) (text : String) (d : Debugger) : Turn :=
  ⟨d, text, (d.line fuel text).state, (d.line fuel text).result⟩

/-- The lines that were written in a turn. -/
def Turn.written (t : Turn) : List String :=
  t.after.output.toList.drop t.before.output.toList.length

/-- What is seen of a turn: the line, its answer and what was written. -/
def Turn.shown (t : Turn) : String × Answer × List String :=
  (t.text, t.answer, t.written)

/-- A line goes on from the records that it finds. -/
theorem line_eq_after (fuel : Nat) (text : String) (d : Debugger) :
    d.line fuel text = (d.unrecorded.line fuel text).mapState (·.after d.past) := by
  have line := line_after d.unrecorded d.past fuel text
  rwa [unrecorded_after_past] at line

theorem shown_turn (fuel : Nat) (text : String) (d : Debugger) :
    (d.turn fuel text).shown = (d.unrecorded.turn fuel text).shown := by
  have lines : (d.turn fuel text).written = (d.unrecorded.turn fuel text).written := by
    have output : (d.turn fuel text).after.output.toList =
        d.output.toList ++ (d.unrecorded.turn fuel text).after.output.toList := by
      rw [turn, line_eq_after]
      exact Record.toList_after _ _
    exact (congrArg (List.drop _) output).trans List.drop_left
  have answer : (d.turn fuel text).answer = (d.unrecorded.turn fuel text).answer := by
    rw [turn, line_eq_after]
    rfl
  exact Prod.ext rfl (Prod.ext answer lines)

theorem unrecorded_line (fuel : Nat) (text : String) (d : Debugger) :
    (d.line fuel text).state.unrecorded = (d.unrecorded.line fuel text).state.unrecorded := by
  rw [line_eq_after]
  rfl

/-! ## Quiet turns -/

/-- The command only shows something. -/
def Command.shows : Command → Bool
  | .session (.onVariables .print) | .session (.onVariables .printMem) | .printTrace => true
  | _ => false

/-- The line was answered with a failure. -/
def Turn.fails (t : Turn) : Bool :=
  match t.answer with
  | .ok result => !result.ok
  | .error _ => false

/-- The line was not taken as code and starts no run, and it has failed or only shows something. -/
def Turn.isQuiet (t : Turn) : Bool :=
  t.before.phase ≠ .waiting &&
    match commandOf? t.text with
    | some (.resume _) => false
    | some c => c.shows || t.fails
    | none => t.fails

/-- A statement was refused, or has written lines and done nothing else. -/
inductive Spoken (d : Debugger) : Reply Debugger Unit → Prop
  | refuse (f : Fault) : Spoken d (.fault d f)
  | write (lines : List String) : Spoken d (.ok (d.onSession (·.write lines)) ())

theorem spoken_of_shows {c : Command} (shows : c.shows = true) (args : List String) :
    Spoken d (d.perform args c) := by
  cases c with
  | session c =>
    cases c with
    | onVariables c =>
      rw [perform, SessionCommand.perform_onVariables]
      cases c with
      | print =>
        cases named : readName args[0]? with
        | error f =>
          simp only [VariableCommand.perform, named]
          exact .refuse f
        | ok name =>
          cases known : d.vars.read name with
          | error f =>
            simp only [VariableCommand.perform, named, liftM_ok_bind, known]
            exact .refuse f
          | ok value =>
            simp only [VariableCommand.perform, named, liftM_ok_bind, known]
            exact .write [toString value]
      | printMem => exact .write d.vars.listing
      | set | sub | rem => cases shows
    | setCode | endSetCode => cases shows
  | printTrace => exact .write _
  | skipBody | call | resume | addBreak => cases shows

theorem spoken_of_fails (fails : Turn.fails ⟨d, text, e, (settled text (d.execute text)).result⟩) :
    Spoken d (d.execute text) := by
  cases executed : (d.execute text).result with
  | ok _ => simp [Turn.fails, settled, Reply.settle, executed, LineResult.ok] at fails
  | error failure =>
    cases failure with
    | fault f =>
      rw [execute_of_fault executed]
      exact .refuse f
    | crash c => simp [Turn.fails, settled, Reply.settle, executed] at fails
    | unfinished => simp [Turn.fails, settled, Reply.settle, executed] at fails

/-- In a quiet turn a statement is executed outside every run, and nothing comes of it. -/
theorem spoken_of_isQuiet (quiet : (d.turn fuel text).isQuiet = true) :
    d.line fuel text = settled text (d.execute text) ∧ Spoken d (d.execute text) := by
  obtain ⟨ready, kind⟩ := Bool.and_eq_true_iff.1 quiet
  have typed (other : ∀ mode, commandOf? text ≠ some (.resume mode)) :
      d.line fuel text = settled text (d.execute text) := by
    have ready : d.phase ≠ .waiting := of_decide_eq_true ready
    rw [line, if_neg ready, statement_of_other other]
    rfl
  cases command : commandOf? text with
  | none =>
    have line := typed (by simp [command])
    simp only [turn, command, line] at kind
    exact ⟨line, spoken_of_fails kind⟩
  | some c =>
    cases c with
    | resume mode => simp [turn, command] at kind
    | _ =>
      have line := typed (by simp [command])
      simp only [turn, command, line, Bool.or_eq_true] at kind
      refine ⟨line, kind.elim (fun shows => ?_) spoken_of_fails⟩
      obtain ⟨args, parsed⟩ := parse_of_commandOf? command
      rw [execute_of_parse d parsed]
      exact spoken_of_shows shows args

/-- A quiet turn is answered and leaves nothing but records: one line if it has failed. -/
theorem turn_of_isQuiet (quiet : (d.turn fuel text).isQuiet = true) :
    (d.turn fuel text).after.unrecorded = d.unrecorded ∧
    ∃ result, (d.turn fuel text).answer = .ok result ∧
      ∀ f, result = .failure f → (d.turn fuel text).after.output = d.output.add f.message := by
  obtain ⟨line, spoken⟩ := spoken_of_isQuiet quiet
  rw [turn, line]
  generalize d.execute text = reply at spoken
  cases spoken with
  | refuse f =>
    refine ⟨rfl, .failure f, rfl, ?_⟩
    rintro _ ⟨⟩
    rfl
  | write lines => exact ⟨rfl, .success, rfl, nofun⟩

/-! ## Insertions -/

/-- A line of a session, and whether it was put in. -/
structure Entry where
  text : String
  inserted : Bool
  deriving DecidableEq, Repr

/-- The lines of the session before others were put in. -/
def originals (entries : List Entry) : List String :=
  (entries.filter (!·.inserted)).map Entry.text

/-- The turns of a session, each with its entry. -/
def entryTurns (fuel : Nat) (entries : List Entry) (d : Debugger) : List (Entry × Turn) :=
  entries.zip (session fuel (entries.map Entry.text) d)

theorem entryTurns_cons (fuel : Nat) (entry : Entry) (rest : List Entry) (d : Debugger) :
    entryTurns fuel (entry :: rest) d =
      (entry, d.turn fuel entry.text) :: entryTurns fuel rest (d.line fuel entry.text).state := rfl

/-- Two sessions that begin alike but for the records, one of them with quiet insertions. -/
theorem shown_originals (same : d.unrecorded = e.unrecorded) (entries : List Entry)
    (quiet : ∀ p ∈ entryTurns fuel entries d, p.1.inserted = true → p.2.isQuiet = true) :
    ((entryTurns fuel entries d).filter (!·.1.inserted)).map (·.2.shown) =
      (session fuel (originals entries) e).map Turn.shown ∧
    (afterSession fuel (entries.map Entry.text) d).unrecorded =
      (afterSession fuel (originals entries) e).unrecorded := by
  induction entries generalizing d e with
  | nil => exact ⟨rfl, same⟩
  | cons entry rest ih =>
    have later : ∀ p ∈ entryTurns fuel rest (d.line fuel entry.text).state,
        p.1.inserted = true → p.2.isQuiet = true :=
      fun p member => quiet p (List.mem_cons_of_mem _ member)
    cases inserted : entry.inserted with
    | true =>
      have here := quiet (entry, d.turn fuel entry.text) List.mem_cons_self inserted
      have left : originals (entry :: rest) = originals rest := by
        simp [originals, inserted]
      rw [entryTurns_cons, left, List.filter_cons_of_neg (by simp [inserted])]
      exact ih ((turn_of_isQuiet here).1.trans same) later
    | false =>
      have next : (d.line fuel entry.text).state.unrecorded =
          (e.line fuel entry.text).state.unrecorded := by
        rw [unrecorded_line, same, ← unrecorded_line]
      have shown : (d.turn fuel entry.text).shown = (e.turn fuel entry.text).shown := by
        rw [shown_turn, same, ← shown_turn]
      have kept : originals (entry :: rest) = entry.text :: originals rest := by
        simp [originals, inserted]
      rw [entryTurns_cons, kept, List.filter_cons_of_pos (by simp [inserted])]
      obtain ⟨turns, last⟩ := ih next later
      exact ⟨congrArg₂ List.cons shown turns, last⟩

/-- Lines that fail or only show something disturb nothing, if they are not taken as code and start
no run. Wherever they are put into a session, the other lines of it get the same answers and write
the same. -/
theorem quiet_lines_disturb_nothing (fuel : Nat) (d : Debugger) :
    (∀ text, (d.turn fuel text).isQuiet = true →
      (d.turn fuel text).after.unrecorded = d.unrecorded ∧
      ∃ result, (d.turn fuel text).answer = .ok result ∧
        ∀ f, result = .failure f → (d.turn fuel text).after.output = d.output.add f.message) ∧
    ∀ entries : List Entry,
      (∀ p ∈ entryTurns fuel entries d, p.1.inserted = true → p.2.isQuiet = true) →
      ((entryTurns fuel entries d).filter (!·.1.inserted)).map (·.2.shown) =
        (session fuel (originals entries) d).map Turn.shown ∧
      (afterSession fuel (entries.map Entry.text) d).unrecorded =
        (afterSession fuel (originals entries) d).unrecorded :=
  ⟨fun _ quiet => turn_of_isQuiet quiet, fun entries quiet => shown_originals rfl entries quiet⟩

/-- A run within a function is inspected, and statements fail there. -/
def inspected : List Entry :=
  [⟨"set code", false⟩, ⟨"def f\n    set a 1\n    print a\ncall f\nprint a", false⟩,
   ⟨"end set code", false⟩, ⟨"step", false⟩, ⟨"step", false⟩, ⟨"step", false⟩,
   ⟨"print trace", true⟩, ⟨"print mem", true⟩, ⟨"rem b", true⟩, ⟨"call g", true⟩,
   ⟨"run", false⟩, ⟨"print a", true⟩]

theorem inspected_undisturbed :
    (∀ p ∈ entryTurns 10 inspected {}, p.1.inserted = true → p.2.isQuiet = true) ∧
    ((entryTurns 10 inspected {}).filter (!·.1.inserted)).map (·.2.shown) =
      (session 10 (originals inspected) {}).map Turn.shown ∧
    ((session 10 (originals inspected) {}).map Turn.written).getLast? = some ["1", "1"] := by
  have quiet : (∀ p ∈ entryTurns 10 inspected {}, p.1.inserted = true → p.2.isQuiet = true) ∧
      ((session 10 (originals inspected) {}).map Turn.written).getLast? = some ["1", "1"] := by
    decide +kernel
  exact ⟨quiet.1, ((quiet_lines_disturb_nothing 10 {}).2 inspected quiet.1).1, quiet.2⟩

end Debugger

end LineLang
