import LineLang.Session.Basic

/-!
# What the commands of every session do

A command of every session works on the variables, or brackets the wait for code. On the variables
it acts at the position of the session (`SessionCommand.perform_onVariables`). If it cannot be
carried out, the reason is a fault or a number that is too long to be converted
(`VariableCommand.refuses_perform`).
-/

namespace LineLang

/-! ## Phases -/

/-- Entering a phase changes the phase and the log. -/
theorem Session.enter_eq (s : Session) (phase : Phase) :
    ∃ log, s.enter phase = { s with phase, log } := by
  unfold Session.enter
  split
  · next same => exact ⟨s.log, by rw [← same]⟩
  · exact ⟨_, rfl⟩

theorem Session.enter_toWorkspace (s : Session) (phase : Phase) :
    (s.enter phase).toWorkspace = s.toWorkspace := by
  obtain ⟨log, entered⟩ := s.enter_eq phase
  rw [entered]

theorem Session.enter_routines (s : Session) (phase : Phase) :
    (s.enter phase).routines = s.routines :=
  congrArg Workspace.routines (s.enter_toWorkspace phase)

theorem Session.requestCode_eq (s : Session) :
    ∃ log, s.requestCode = { s with requested := true, phase := .waiting, log } :=
  Session.enter_eq { s with requested := true } .waiting

theorem Session.eq_of_endCode {s s' : Session} (closed : s.endCode = .ok s') :
    ∃ log, s' = { s with requested := false, phase := .ready, log } := by
  unfold Session.endCode at closed
  split at closed
  · cases closed
  · cases closed
    exact Session.enter_eq { s with requested := false } .ready

theorem Session.toWorkspace_of_endCode {s s' : Session} (closed : s.endCode = .ok s') :
    s'.toWorkspace = s.toWorkspace := by
  obtain ⟨log, rfl⟩ := Session.eq_of_endCode closed
  rfl

/-! ## Commands -/

namespace SessionCommand

theorem perform_onVariables (args : List String) (outside : Option Int) (s : Session)
    (c : VariableCommand) :
    (onVariables c).perform args outside s =
      (c.perform args (s.positionOr outside) s.vars).map fun effect =>
        { s with vars := effect.1 }.write effect.2 := by
  unfold perform
  dsimp only
  cases c.perform args (s.positionOr outside) s.vars <;> rfl

theorem perform_endSetCode (args : List String) (outside : Option Int) (s : Session) :
    endSetCode.perform args outside s = s.endCode.mapError .fault := rfl

end SessionCommand

/-! ## Refusals

A statement that cannot be carried out is faulty, or has a number that is too long to be
converted. -/

/-- The token is a number of `count` digits, more than are converted. -/
def TooLong (token : String) (count : Nat) : Prop :=
  digitCount? token = some count ∧ maxDigits < count

theorem convertValue_of_tooLong {token : String} {count : Nat} (long : TooLong token count) :
    convertValue (some token) = .error (.crash (.tooManyDigits count)) := by
  have found : ((some token).bind digitCount?).filter (maxDigits < ·) = some count :=
    Option.filter_eq_some_iff.2 ⟨long.1, decide_eq_true long.2⟩
  rw [convertValue, found]

/-- The failures of a statement whose command is known and whose arguments are read: a fault, or a
number that is too long among the tokens that are converted. -/
inductive Failure.IsRefusal (converted : String → Prop) : Failure → Prop
  | fault (f : Fault) (known : f ≠ .unknownCommand) : IsRefusal converted (.fault f)
  | tooLong {token : String} {count : Nat} (converts : converted token)
      (long : TooLong token count) : IsRefusal converted (.crash (.tooManyDigits count))

theorem readName_ne_unknownCommand (token? : Option String) :
    readName token? ≠ .error .unknownCommand := by
  unfold readName
  split
  · split <;> simp
  · simp

theorem readValue_ne_unknownCommand (token? : Option String) :
    readValue token? ≠ .error .unknownCommand := by
  unfold readValue
  split
  · split
    · simp
    · split
      · split <;> simp
      · simp
  · simp

theorem Variables.read_ne_unknownCommand (vs : Variables) (name : String) :
    vs.read name ≠ .error .unknownCommand := by
  unfold read
  split <;> simp

/-- If the operation fails, what it reads is the reason. -/
def Refuses {α : Type} (converted : String → Prop) (x : Except Failure α) : Prop :=
  ∀ f, x = .error f → f.IsRefusal converted

section

variable {α β : Type} {converted : String → Prop}

theorem refuses_ok (a : α) : Refuses converted (.ok a : Except Failure α) := by
  intro f h
  cases h

theorem refuses_convertValue {token? : Option String}
    (converts : ∀ token, token? = some token → converted token) :
    Refuses converted (convertValue token?) := by
  intro f h
  unfold convertValue at h
  split at h
  · next count long =>
    cases h
    obtain ⟨digits, exceeds⟩ := Option.filter_eq_some_iff.1 long
    obtain ⟨token, given, digits⟩ := Option.bind_eq_some_iff.1 digits
    exact .tooLong (converts token given) ⟨digits, of_decide_eq_true exceeds⟩
  · cases read : readValue token? with
    | error fault =>
      rw [read] at h
      cases h
      exact .fault fault fun same => readValue_ne_unknownCommand token? (same ▸ read)
    | ok value =>
      rw [read] at h
      cases h

theorem Refuses.bind {x : Except Failure α} {next : α → Except Failure β}
    (hx : Refuses converted x) (hnext : ∀ a, Refuses converted (next a)) :
    Refuses converted (x >>= next) := by
  cases x with
  | error e =>
    intro f h
    cases h
    exact hx e rfl
  | ok a => exact hnext a

theorem liftM_ok_bind (a : α) (next : α → Except Failure β) :
    liftM (Except.ok a : Except Fault α) >>= next = next a := rfl

theorem exists_of_bind {x : Except Failure α} {next : α → Except Failure β} {b : β}
    (h : x >>= next = .ok b) : ∃ a, x = .ok a ∧ next a = .ok b := by
  cases x with
  | error f => cases h
  | ok a => exact ⟨a, rfl, h⟩

theorem exists_of_liftM_bind {x : Except Fault α} {next : α → Except Failure β} {b : β}
    (h : liftM x >>= next = .ok b) : ∃ a, x = .ok a ∧ next a = .ok b := by
  cases x with
  | error f => cases h
  | ok a => exact ⟨a, rfl, h⟩

/-- What comes after an operation that can only be faulty may rely on its result. -/
theorem refuses_liftM_bind {x : Except Fault α} {next : α → Except Failure β}
    (known : x ≠ .error .unknownCommand)
    (hnext : ∀ a, x = .ok a → Refuses converted (next a)) :
    Refuses converted (liftM x >>= next) := by
  cases x with
  | error fault =>
    intro f h
    cases h
    exact .fault fault fun same => known (same ▸ rfl)
  | ok a => exact hnext a rfl

end

namespace VariableCommand

variable {args : List String} {vs : Variables}

/-- The command comes to convert the token: what it reads before is in order. -/
inductive Converts (args : List String) (vs : Variables) : VariableCommand → String → Prop
  | set {name token : String} (named : readName args[0]? = .ok name)
      (given : args[1]? = some token) : Converts args vs .set token
  | sub {name token : String} {old : Int} (named : readName args[0]? = .ok name)
      (known : vs.read name = .ok old) (given : args[1]? = some token) : Converts args vs .sub token

theorem refuses_perform (args : List String) (position : Option Int) (vs : Variables)
    (c : VariableCommand) : Refuses (c.Converts args vs) (c.perform args position vs) := by
  cases c with
  | set =>
    exact refuses_liftM_bind (readName_ne_unknownCommand _) fun name named =>
      (refuses_convertValue fun token given => .set named given).bind fun _ => refuses_ok _
  | sub =>
    exact refuses_liftM_bind (readName_ne_unknownCommand _) fun name named =>
      refuses_liftM_bind (vs.read_ne_unknownCommand name) fun old known =>
      (refuses_convertValue fun token given => .sub named known given).bind fun _ => refuses_ok _
  | print | rem =>
    exact refuses_liftM_bind (readName_ne_unknownCommand _) fun name _ =>
      refuses_liftM_bind (vs.read_ne_unknownCommand name) fun _ _ => refuses_ok _
  | printMem => exact refuses_ok _

/-- The variables after a command: as they were, without one of them, or with one that was set. -/
theorem vars_of_perform {c : VariableCommand} {position : Option Int} {vs' : Variables}
    {lines : List String} (done : c.perform args position vs = .ok (vs', lines)) :
    vs' = vs ∨ (∃ name, vs' = vs.erase name) ∨
      (c = .set ∨ c = .sub) ∧ ∃ name value, readName args[0]? = .ok name ∧
        vs' = vs.write name value position := by
  cases c with
  | set =>
    obtain ⟨name, named, done⟩ := exists_of_liftM_bind done
    obtain ⟨value, -, done⟩ := exists_of_bind done
    cases done
    exact .inr (.inr ⟨.inl rfl, name, value, named, rfl⟩)
  | sub =>
    obtain ⟨name, named, done⟩ := exists_of_liftM_bind done
    obtain ⟨old, -, done⟩ := exists_of_liftM_bind done
    obtain ⟨value, -, done⟩ := exists_of_bind done
    cases done
    exact .inr (.inr ⟨.inr rfl, name, old - value, named, rfl⟩)
  | print =>
    obtain ⟨name, -, done⟩ := exists_of_liftM_bind done
    obtain ⟨value, -, done⟩ := exists_of_liftM_bind done
    cases done
    exact .inl rfl
  | rem =>
    obtain ⟨name, -, done⟩ := exists_of_liftM_bind done
    obtain ⟨value, -, done⟩ := exists_of_liftM_bind done
    cases done
    exact .inr (.inl ⟨name, rfl⟩)
  | printMem =>
    cases done
    exact .inl rfl

theorem perform_of_tooLong {c : VariableCommand} {token : String} {count : Nat}
    (converts : c.Converts args vs token) (long : TooLong token count) (position : Option Int) :
    c.perform args position vs = .error (.crash (.tooManyDigits count)) := by
  cases converts with
  | set named given =>
    simp only [perform, named, given, convertValue_of_tooLong long]
    rfl
  | sub named known given =>
    simp only [perform, named, liftM_ok_bind, known, given, convertValue_of_tooLong long]
    rfl

end VariableCommand

end LineLang
