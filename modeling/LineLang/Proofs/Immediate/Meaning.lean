import LineLang.Proofs.Immediate.Functions

/-!
# The immediate interpreter follows the meaning of a script

A statement that the immediate interpreter carries out without a failure does to the variables and
to the lines written what `Performs` says (`dispatch_performs`), and leaves everything else as it
was up to the pointers of functions (`Keeps`). The nesting of calls is bounded by a number in
`execute`, and the induction is on that number.
-/

namespace LineLang

namespace Immediate

variable {i i' i'' : Immediate} {act : String → Immediate → Reply Immediate Unit} {text : String}
  {position : Int}

/-! ## What stays -/

/-- Only the variables, the lines written and the pointers of functions may differ. -/
structure Keeps (i i' : Immediate) : Prop where
  stack : i'.routines.stack = i.routines.stack
  position : i'.position = i.position
  opened : i'.opened = i.opened
  definition : i'.definition = i.definition

namespace Keeps

theorem trans (h : Keeps i i') (h' : Keeps i' i'') : Keeps i i'' :=
  ⟨h'.stack.trans h.stack, h'.position.trans h.position, h'.opened.trans h.opened,
    h'.definition.trans h.definition⟩

/-- A change of a pointer. -/
theorem modify (i : Immediate) (id : RoutineId) {change : Routine → Routine}
    (pointer : ∀ r, (change r).rewind = r.rewind) :
    Keeps i (i.onRoutines (·.modify id change)) :=
  ⟨rfl, rfl, rfl, funext fun _ => i.routines.rewind_find?_modify id _ pointer⟩

theorem runningNames (h : Keeps i i') : i'.runningNames = i.runningNames := by
  rw [Workspace.runningNames, h.stack, Workspace.runningNames]

end Keeps

/-- The bodies of all functions consist of statements that a body may have. -/
def HasPlainBodies (i : Immediate) : Prop :=
  ∀ name f, i.definition name = some f →
    ∀ line ∈ f.lines, Debugger.vocabulary.reads bodyCommands line = true

theorem Keeps.hasPlainBodies (h : Keeps i i') (plain : i.HasPlainBodies) : i'.HasPlainBodies := by
  unfold HasPlainBodies
  rw [h.definition]
  exact plain

/-! ## Statements in a body -/

/-- In a running function `act` carries out the statements that a body may have as they are
meant. -/
def Carries (act : String → Immediate → Reply Immediate Unit) : Prop :=
  ∀ (line : String) (i i' : Immediate) (position : Int), i.routines.stack ≠ [] →
    i.HasPlainBodies → Debugger.vocabulary.reads bodyCommands line = true →
    i.positionOr (some i.position) = some position → act line i = ⟨i', .ok ()⟩ →
    Keeps i i' ∧ Performs i.definition i.runningNames position [line] i.store i'.store

/-- The place of the statement that the top frame is on. -/
theorem positionOr_pointAt {name : String} {f : Routine} {rest : List RoutineId}
    (stack : i.routines.stack = .function name :: rest) (found : i.definition name = some f)
    (pointer : Int) (outside : Option Int) :
    (i.onRoutines (·.modify (.function name) (·.pointAt pointer))).positionOr outside =
      some (f.offset + pointer) := by
  obtain ⟨r, known, rfl⟩ := Option.map_eq_some_iff.1 found
  simp [Workspace.positionOr, onRoutines, Routines.position?, Routines.top?, Routines.modify, stack,
    Routines.routine, Table.find?_modify, known, Routine.position, Routine.pointAt, Routine.rewind]

/-- The lines of a body are carried out as they are meant, if each of them is. -/
theorem runBody_performs (carries : Carries act) {name : String} {f : Routine}
    {rest : List RoutineId} {pointer : Nat} {lines : List String}
    (stack : i.routines.stack = .function name :: rest) (found : i.definition name = some f)
    (plain : i.HasPlainBodies)
    (readable : ∀ line ∈ lines, Debugger.vocabulary.reads bodyCommands line = true)
    (done : runBody act (.function name) pointer lines i = ⟨i', .ok ()⟩) :
    Keeps i i' ∧
      Performs i.definition i.runningNames (f.offset + pointer) lines i.store i'.store := by
  induction lines generalizing i pointer with
  | nil =>
    cases done
    exact ⟨⟨rfl, rfl, rfl, rfl⟩, .nil _⟩
  | cons line lines ih =>
    obtain ⟨next, first, later⟩ := Reply.andThen_eq_ok done
    have placed : Keeps i (i.onRoutines (·.modify (.function name) (·.pointAt pointer))) :=
      .modify i _ fun _ => rfl
    have readable_line := readable line List.mem_cons_self
    obtain ⟨kept, performed⟩ := carries line _ next (f.offset + pointer)
      (by rw [placed.stack, stack]; simp) (placed.hasPlainBodies plain) readable_line
      (positionOr_pointAt stack found pointer _) first
    have kept := placed.trans kept
    obtain ⟨kept', performed'⟩ := ih (kept.stack.trans stack) (by rw [kept.definition, found])
      (kept.hasPlainBodies plain) (fun line member => readable line (List.mem_cons_of_mem _ member))
      later
    rw [placed.definition, placed.runningNames] at performed
    rw [kept.definition, kept.runningNames, Int.natCast_succ, ← Int.add_assoc] at performed'
    exact ⟨kept.trans kept',
      performed.cons (isHeader_of_reads_bodyCommands readable_line) performed'⟩

/-- A call that ends well found a function that was not running, and carried out its body. -/
theorem exists_of_call {args : List String} (done : i.call act args = ⟨i', .ok ()⟩) :
    ∃ name r j, readName args[0]? = .ok name ∧
      i.routines.known.find? (.function name) = some r ∧ .function name ∉ i.routines.stack ∧
      runBody act (.function name) 0 r.lines (i.onRoutines (·.push (.function name))) =
        ⟨j, .ok ()⟩ ∧
      i' = j.onRoutines fun rs => (rs.modify (.function name) Routine.rewind).pop := by
  unfold Immediate.call at done
  cases named : readName args[0]? with
  | error f =>
    rw [named] at done
    cases done
  | ok name =>
    simp only [named, Workspace.function] at done
    cases found : i.routines.known.find? (.function name) with
    | none =>
      rw [found] at done
      cases done
    | some r =>
      simp only [found] at done
      split at done
      case isTrue => cases done
      case isFalse free =>
        rcases ran : runBody act (.function name) 0 r.lines
          (i.onRoutines (·.push (.function name))) with ⟨j, result⟩
        rw [ran] at done
        cases done
        exact ⟨name, r, j, rfl, found, free, ran, rfl⟩

theorem call_performs (carries : Carries act) {args : List String} (plain : i.HasPlainBodies)
    (parsed : Debugger.vocabulary.parse text = .ok ⟨"call", args⟩)
    (done : i.call act args = ⟨i', .ok ()⟩) :
    Keeps i i' ∧ Performs i.definition i.runningNames position [text] i.store i'.store := by
  obtain ⟨name, r, j, named, known, free, ran, rfl⟩ := exists_of_call done
  have found : i.definition name = some r.rewind := by
    rw [Workspace.definition, known, Option.map_some]
  have stack : (i.onRoutines (·.push (.function name))).routines.stack =
      .function name :: i.routines.stack := rfl
  obtain ⟨kept, performed⟩ := runBody_performs carries stack found plain
    (plain name r.rewind found) ran
  have left : Keeps j (j.onRoutines (·.modify (.function name) Routine.rewind)) :=
    .modify j _ fun _ => rfl
  have both := kept.trans left
  refine ⟨⟨congrArg List.tail both.stack, both.position, both.opened, both.definition⟩, ?_⟩
  refine .call parsed named found (fun member => free (Workspace.mem_runningNames.1 member)) ?_
    (.nil _)
  rwa [Int.natCast_zero, Int.add_zero] at performed

/-- A statement that a body may have is carried out as it is meant. -/
theorem dispatch_performs (carries : Carries act) (plain : i.HasPlainBodies)
    (readable : Debugger.vocabulary.reads bodyCommands text = true)
    (placed : i.positionOr (some i.position) = some position)
    (done : i.dispatch act text = ⟨i', .ok ()⟩) :
    Keeps i i' ∧ Performs i.definition i.runningNames position [text] i.store i'.store := by
  obtain ⟨⟨command, args⟩, parsed, member⟩ := Vocabulary.reads_iff.1 readable
  have parsed' := parse_immediate parsed (List.mem_cons_of_mem _ member)
  obtain ⟨c, rfl⟩ | rfl := command_of_mem_bodyCommands member
  · rw [dispatch_of_parse (c := .session (.onVariables c)) parsed', perform,
      SessionCommand.perform_onVariables, placed] at done
    cases acted : c.perform args (some position) i.vars with
    | error f =>
      rw [acted] at done
      cases done
    | ok effect =>
      rw [acted] at done
      cases done
      exact ⟨⟨rfl, rfl, rfl, rfl⟩, .onVariables parsed acted (.nil _)⟩
  · rw [dispatch_of_parse (c := .call) parsed', perform] at done
    exact call_performs carries plain parsed done

theorem execute_carries (depth : Nat) : Carries (execute depth) := by
  induction depth with
  | zero =>
    intro line i i' position running plain readable placed done
    cases done
  | succ depth ih =>
    intro line i i' position running plain readable placed done
    rw [execute_succ_of_running depth line running] at done
    exact dispatch_performs ih plain readable placed done

/-! ## Lines of the main program -/

/-- The functions whose bodies are complete consist of statements that a body may have. -/
def SettledPlain (i : Immediate) : Prop :=
  ∀ name f, i.settled name = some f →
    ∀ line ∈ f.lines, Debugger.vocabulary.reads bodyCommands line = true

/-- What a line of the main program leads to, if it ends well. -/
inductive Takes (i : Immediate) (line : String) : Immediate → Prop
  | collect (name body : String) (open_ : i.opened = some name)
      (split : line = Text.indented body) :
      Takes i line (i.onRoutines (·.modify (.function name) (·.append body)))
  | perform (i' : Immediate) (unindented : Text.isIndented line = false)
      (readable : Debugger.vocabulary.reads bodyCommands line = true)
      (kept : Keeps { i with opened := none } i')
      (performed : Performs i.definition [] i.position [line] i.store i'.store) : Takes i line i'
  | define (name : String) (args : List String) (unindented : Text.isIndented line = false)
      (parsed : Debugger.vocabulary.parse line = .ok ⟨Outline.header, args⟩)
      (named : readName args[0]? = .ok name) (new : i.definition name = none) :
      Takes i line ({ i with
        toWorkspace := i.addFunction { name, offset := i.position + 1 }
        opened := some name }.onSession (·.note (.bodyOpened name)))

theorem Takes.position_eq (takes : Takes i text i') : i'.position = i.position := by
  cases takes with
  | collect | define => rfl
  | perform i' unindented readable kept performed => exact kept.position

theorem takes_of_dispatch (outside : i.routines.stack = []) {depth : Nat}
    (readable : Text.isIndented text = false → Debugger.vocabulary.reads mainCommands text = true)
    (plain : i'.SettledPlain)
    (done : dispatch (execute depth) text { i with opened := none } = ⟨i', .ok ()⟩) :
    Takes i text i' := by
  have grows := dispatch_grows (execute_grows depth) text { i with opened := none }
  rw [done] at grows
  have unindented : Text.isIndented text = false := by
    cases indented : Text.isIndented text with
    | false => rfl
    | true =>
      obtain ⟨f, -, refused⟩ | ⟨c, args, parsed, -⟩ := repertoire.dispatch_cases text Immediate
      · rw [dispatch, refused] at done
        cases done
      · exact absurd parsed (parse_immediate_indented_ne_ok indented)
  have readable := readable unindented
  obtain ⟨⟨command, args⟩, parsed, member⟩ := Vocabulary.reads_iff.1 readable
  obtain rfl | member := List.mem_cons.1 member
  · rw [dispatch_of_parse (c := .define) (parse_immediate parsed List.mem_cons_self),
      perform] at done
    cases defined : Immediate.define args { i with opened := none } with
    | error f =>
      rw [defined] at done
      cases done
    | ok next =>
      rw [defined] at done
      cases done
      obtain ⟨name, named, new, rfl⟩ := define_eq_ok_iff.1 defined
      exact .define name args unindented parsed named (Workspace.isDefined_eq_false_iff.1 new)
  · have readable : Debugger.vocabulary.reads bodyCommands text = true :=
      Vocabulary.reads_iff.2 ⟨_, parsed, member⟩
    have bodies : HasPlainBodies { i with opened := none } :=
      fun name f found => plain name f (grows.settled found)
    have placed : Workspace.positionOr i.toWorkspace (some i.position) = some i.position := by
      simp [Workspace.positionOr, Routines.position?, Routines.top?, outside]
    have nothing : i.runningNames = [] := by simp [Workspace.runningNames, outside]
    obtain ⟨kept, performed⟩ :=
      dispatch_performs (execute_carries depth) bodies readable placed done
    rw [show Workspace.runningNames _ = [] from nothing] at performed
    exact .perform i' unindented readable kept performed

theorem statement_takes (outside : i.routines.stack = [])
    (readable : Text.isIndented text = false → Debugger.vocabulary.reads mainCommands text = true)
    (plain : i'.SettledPlain) (done : i.statement text = ⟨i', .ok ()⟩) : Takes i text i' := by
  obtain ⟨name, body, open_, dedented⟩ | closes := i.collects_or_closes text
  · rw [statement_of_collects outside open_ dedented] at done
    cases done
    exact .collect name body open_ (Text.dedent?_eq_some_iff.1 dedented)
  · rw [statement_of_closes outside closes] at done
    exact takes_of_dispatch outside readable plain done

/-- The first of several lines, and what the others find. -/
theorem exists_takes {lines : List String} (outside : i.routines.stack = [])
    (readable : ∀ line ∈ text :: lines, Text.isIndented line = false →
      Debugger.vocabulary.reads mainCommands line = true)
    (plain : i'.SettledPlain) (done : statements (text :: lines) i = ⟨i', .ok ()⟩) :
    ∃ j, Takes i.count text j ∧ statements lines j = ⟨i', .ok ()⟩ ∧ j.routines.stack = [] ∧
      ∀ name f, j.settled name = some f → i'.settled name = some f := by
  obtain ⟨j, first, later⟩ := Reply.andThen_eq_ok done
  have empty : j.routines.stack = [] := by
    have stays := (statement_settled (show i.count.routines.stack = [] from outside) text).1
    rwa [first] at stays
  have settles : ∀ name f, j.settled name = some f → i'.settled name = some f := by
    have stays := (statements_settled empty lines).2
    rwa [later] at stays
  have plain' : j.SettledPlain := fun name f found => plain name f (settles name f found)
  exact ⟨j, statement_takes outside (readable text List.mem_cons_self) plain' first, later, empty,
    settles⟩

/-- The lines at the start that belong to the body that is being collected. -/
def bodyAhead (i : Immediate) (lines : List String) : List String :=
  if i.opened.isSome then lines.takeWhile Text.isIndented else []

/-- The lines that follow the body that is being collected. -/
def afterBody (i : Immediate) (lines : List String) : List String :=
  if i.opened.isSome then lines.dropWhile Text.isIndented else lines

theorem bodyAhead_of_unindented (unindented : Text.isIndented text = false) (lines : List String) :
    i.bodyAhead (text :: lines) = [] := by
  simp [bodyAhead, unindented]

theorem afterBody_of_unindented (unindented : Text.isIndented text = false) (lines : List String) :
    i.afterBody (text :: lines) = text :: lines := by
  simp [afterBody, unindented]

/-- The lines of a script are carried out as they are meant, except that those which come first may
belong to a body. -/
theorem statements_performs {lines : List String} (outside : i.routines.stack = [])
    (readable : ∀ line ∈ lines, Text.isIndented line = false →
      Debugger.vocabulary.reads mainCommands line = true)
    (plain : i'.SettledPlain) (done : statements lines i = ⟨i', .ok ()⟩) :
    Performs i'.definition [] (i.position + 1 + (i.bodyAhead lines).length) (i.afterBody lines)
      i.store i'.store := by
  induction lines generalizing i with
  | nil =>
    have nothing : i.afterBody [] = [] := by simp [afterBody]
    rw [nothing]
    cases done
    exact .nil _
  | cons line lines ih =>
    obtain ⟨j, takes, later, empty, settles⟩ := exists_takes outside readable plain done
    have more := ih empty (fun line member => readable line (List.mem_cons_of_mem _ member)) later
    cases takes with
    | collect name body open_ split =>
      have indented : Text.isIndented line = true := Text.isIndented_iff.2 ⟨body, split⟩
      have open_ : i.opened = some name := open_
      simp only [bodyAhead, afterBody, onRoutines, count, open_, Option.isSome_some,
        if_true] at more
      simp only [bodyAhead, afterBody, open_, Option.isSome_some, if_true,
        List.takeWhile_cons_of_pos indented, List.dropWhile_cons_of_pos indented, List.length_cons]
      have place : i.position + 1 + ((lines.takeWhile Text.isIndented).length + 1 : Nat) =
          i.position + 1 + 1 + ((lines.takeWhile Text.isIndented).length : Int) := by
        omega
      rw [place]
      exact more
    | perform _ unindented readable kept performed =>
      rw [bodyAhead_of_unindented unindented, afterBody_of_unindented unindented,
        List.length_nil, Int.natCast_zero, Int.add_zero]
      have closed : j.opened = none := kept.opened
      simp only [bodyAhead, afterBody, closed, Option.isSome_none, Bool.false_eq_true, if_false,
        List.length_nil, Int.natCast_zero, Int.add_zero, kept.position] at more
      refine Performs.cons (performed.mono fun name f found => ?_)
        (isHeader_of_reads_bodyCommands readable) more
      apply definition_of_settled (settles name f _)
      rw [settled, closed, if_neg (by simp), kept.definition]
      exact found
    | define name args unindented parsed named new =>
      rw [bodyAhead_of_unindented unindented, afterBody_of_unindented unindented,
        List.length_nil, Int.natCast_zero, Int.add_zero]
      exact .header parsed more

end Immediate

end LineLang
