import LineLang.Proofs.Immediate.Nesting

/-!
# What a statement of the immediate interpreter can do

`Effect act i line reply` lists everything that carrying out `line` can lead to, with `act` for the
statements of a called function: it is refused, it has a number that is too long, it changes the
state on its own (`Alters`), or it calls a function. `dispatch_effect` says that the list is
complete. What whole lines and sessions keep is read off the constructors.
-/

namespace LineLang

namespace Immediate

variable {i i' : Immediate} {act : String → Immediate → Reply Immediate Unit} {line name : String}
  {reply : Reply Immediate Unit} {count : Nat}

/-! ## Effects -/

/-- Carrying out the line comes to convert a number of `count` digits, more than are converted. -/
def Overlong (i : Immediate) (line : String) (count : Nat) : Prop :=
  ∃ (c : VariableCommand) (args : List String) (token : String),
    vocabulary.parse line = .ok ⟨c.name, args⟩ ∧ c.Converts args i.vars token ∧ TooLong token count

/-- The interpreter when a function has been opened. -/
def opening (i : Immediate) (name : String) : Immediate :=
  { i with
    toWorkspace := i.addFunction { name, offset := i.position + 1 }
    opened := some name }.onSession (·.note (.bodyOpened name))

/-- A statement that carries out no other one changes `i` to `i'`. -/
inductive Alters (i : Immediate) (line : String) : Immediate → Prop
  | onVariables (c : VariableCommand) (args : List String) (vars : Variables)
      (lines : List String) (parsed : vocabulary.parse line = .ok ⟨c.name, args⟩)
      (done : c.perform args (i.positionOr (some i.position)) i.vars = .ok (vars, lines)) :
      Alters i line ({ i with vars }.onSession (·.write lines))
  | setCode (args : List String)
      (parsed : vocabulary.parse line = .ok ⟨SessionCommand.setCode.name, args⟩) :
      Alters i line (i.onSession Session.requestCode)
  | endSetCode (args : List String)
      (parsed : vocabulary.parse line = .ok ⟨SessionCommand.endSetCode.name, args⟩) (s : Session)
      (closed : i.endCode = .ok s) : Alters i line { i with toSession := s }
  | define (args : List String) (parsed : vocabulary.parse line = .ok ⟨Outline.header, args⟩)
      (name : String) (named : readName args[0]? = .ok name) (new : i.isDefined name = false) :
      Alters i line (i.opening name)
  | idle (args : List String) (parsed : vocabulary.parse line = .ok ⟨Command.idle.name, args⟩) :
      Alters i line i

/-- What carrying out `line` can lead to, with `act` for the statements of a called function. -/
inductive Effect (act : String → Immediate → Reply Immediate Unit) (i : Immediate) (line : String) :
    Reply Immediate Unit → Prop
  /-- The statement is refused and changes nothing. The line may be no statement at all. -/
  | refuse (f : Fault) : Effect act i line (.fault i f)
  /-- A number is too long to be converted, and nothing changes. -/
  | tooLong (count : Nat) (overlong : i.Overlong line count) :
      Effect act i line (.crash i (.tooManyDigits count))
  | alter (i' : Immediate) (alters : Alters i line i') : Effect act i line (.ok i' ())
  | call (name : String) (r : Routine) (enters : Enters line i name r) :
      Effect act i line
        ((runBody act (.function name) 0 r.lines (i.onRoutines (·.push (.function name)))).mapState
          (·.leaving name))

theorem perform_effect (act : String → Immediate → Reply Immediate Unit) (i : Immediate)
    {c : Command} {args : List String} (parsed : vocabulary.parse line = .ok ⟨c.name, args⟩) :
    Effect act i line (i.perform act args c) := by
  cases c with
  | session c =>
    cases c with
    | onVariables c =>
      simp only [perform, SessionCommand.perform_onVariables]
      cases done : c.perform args (i.positionOr (some i.position)) i.vars with
      | error f =>
        cases c.refuses_perform _ _ _ f done with
        | fault f => exact .refuse f
        | tooLong converts long => exact .tooLong _ ⟨c, args, _, parsed, converts, long⟩
      | ok effect => exact .alter _ (.onVariables c args effect.1 effect.2 parsed done)
    | setCode => exact .alter _ (.setCode args parsed)
    | endSetCode =>
      simp only [perform, SessionCommand.perform_endSetCode]
      cases closed : i.endCode with
      | error f => exact .refuse f
      | ok s => exact .alter _ (.endSetCode args parsed s closed)
  | define =>
    dsimp only [perform]
    cases done : i.define args with
    | error f =>
      cases refuses_define args i f done with
      | fault f => exact .refuse f
      | tooLong converts => exact converts.elim
    | ok i' =>
      obtain ⟨name, named, new, rfl⟩ := define_eq_ok_iff.1 done
      exact .alter _ (.define args parsed name named new)
  | call =>
    obtain ⟨f, refused⟩ | ⟨name, r, enters, called⟩ := call_cases parsed i
    · rw [perform, refused]
      exact .refuse f
    · rw [perform, called]
      exact .call name r enters
  | idle => exact .alter _ (.idle args parsed)

/-- A statement does one of the things on the list. -/
theorem dispatch_effect (act : String → Immediate → Reply Immediate Unit) (i : Immediate)
    (line : String) : Effect act i line (i.dispatch act line) := by
  obtain ⟨f, -, refused⟩ | ⟨c, args, parsed, performed⟩ :=
    repertoire.dispatch_cases line Immediate
  · rw [dispatch, refused]
    exact .refuse f
  · rw [dispatch, performed]
    exact perform_effect act i parsed

/-- A number that is too long is not converted, and nothing changes. -/
theorem dispatch_of_overlong (overlong : i.Overlong line count) :
    i.dispatch act line = .crash i (.tooManyDigits count) := by
  obtain ⟨c, args, token, parsed, converts, long⟩ := overlong
  rw [dispatch_of_parse (c := .session (.onVariables c)) parsed, perform,
    SessionCommand.perform_onVariables, VariableCommand.perform_of_tooLong converts long]
  rfl

end Immediate

end LineLang
