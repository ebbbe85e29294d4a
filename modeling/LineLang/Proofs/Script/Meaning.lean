import LineLang.Debugger.Basic
import LineLang.Immediate
import LineLang.Proofs.Outline.Partition
import LineLang.Proofs.Statement.LongestName

/-!
# What a script means

`Performs` says what carrying out the lines of a script does to the variables and to the lines
written, without a word on how an interpreter keeps its place: a call carries out the body of the
function where the call stands, and a header is passed over together with the indented lines below
it. It is the common ground of the two interpreters, each of which is compared with it on its own.

It covers scripts in which a body has no header and nothing deals with the interpreter itself. Both
interpreters read the lines of such a script in the same way (`parse_immediate`).
-/

namespace LineLang

variable {line : String} {statement : Statement}

/-! ## Lines that are statements -/

namespace Vocabulary

variable {v : Vocabulary}

/-- The line is a statement with one of the commands. -/
def reads (v : Vocabulary) (commands : List String) (line : String) : Bool :=
  match v.parse line with
  | .ok statement => statement.command ∈ commands
  | .error _ => false

theorem reads_iff {commands : List String} :
    v.reads commands line = true ↔
      ∃ statement, v.parse line = .ok statement ∧ statement.command ∈ commands := by
  unfold reads
  cases v.parse line <;> simp

/-- An indented line is no statement, if every name begins with something else than a space. -/
theorem parse_indented_ne_ok (some_name : v.names ≠ [])
    (begins : ∀ name ∈ v.names, name.toList.headD ' ' ≠ ' ')
    (indented : Text.isIndented line = true) : v.parse line ≠ .ok statement := by
  obtain ⟨body, rfl⟩ := Text.isIndented_iff.1 indented
  rw [Ne, parse_eq_ok_iff some_name]
  intro found
  obtain ⟨name, member, attempted⟩ := List.exists_of_findSome?_eq_some found
  obtain ⟨rfl, fits⟩ := attempt?_eq_some_iff.1 attempted
  have part := fits.opens.toList_prefix
  have begun := begins _ member
  cases text : statement.command.toList with
  | nil => simp [text] at begun
  | cons c cs =>
    rw [text, Text.indented, String.toList_ofList] at part
    have space : c = ' ' := (List.cons_prefix_cons.1 part).1
    simp [text, space] at begun

end Vocabulary

/-! ## The commands of a script -/

/-- The commands that the body of a function may have. -/
def bodyCommands : List String :=
  ["set", "sub", "print", "rem", "call", "print mem"]

/-- The commands that the main program may have. -/
def mainCommands : List String :=
  Outline.header :: bodyCommands

theorem command_of_mem_bodyCommands {name : String} (h : name ∈ bodyCommands) :
    (∃ c : VariableCommand, name = c.name) ∨ name = "call" := by
  simp only [bodyCommands, List.mem_cons, List.not_mem_nil, or_false] at h
  rcases h with rfl | rfl | rfl | rfl | rfl | rfl
  · exact .inl ⟨.set, rfl⟩
  · exact .inl ⟨.sub, rfl⟩
  · exact .inl ⟨.print, rfl⟩
  · exact .inl ⟨.rem, rfl⟩
  · exact .inr rfl
  · exact .inl ⟨.printMem, rfl⟩

/-- The immediate interpreter reads the lines of a script as the debugger does. -/
theorem parse_immediate (parsed : Debugger.vocabulary.parse line = .ok statement)
    (known : statement.command ∈ mainCommands) :
    Immediate.vocabulary.parse line = .ok statement := by
  have part : Immediate.Command.all.map Immediate.Command.name ⊆
      Debugger.Command.all.map Debugger.Command.name := by decide +kernel
  have all_known : mainCommands ⊆ Immediate.Command.all.map Immediate.Command.name := by
    decide +kernel
  exact Vocabulary.parse_of_subset (Vocabulary.lists_ofNames _) (Vocabulary.lists_ofNames _) part
    parsed (all_known known)

theorem parse_immediate_indented_ne_ok (indented : Text.isIndented line = true) :
    Immediate.vocabulary.parse line ≠ .ok statement :=
  Vocabulary.parse_indented_ne_ok (by decide +kernel) (by decide +kernel) indented

/-! ## Routines after a change of one of them -/

namespace Routines

variable {κ : Type} [DecidableEq κ] {rs : Routines κ} {k j : κ} {r : Routine}
  {change : Routine → Routine}

theorem find?_modify_self (found : rs.known.find? k = some r) :
    (rs.modify k change).known.find? k = some (change r) := by
  rw [modify, Table.find?_modify, if_pos rfl, found, Option.map_some]

theorem find?_modify_of_ne (other : j ≠ k) :
    (rs.modify k change).known.find? j = rs.known.find? j := by
  rw [modify, Table.find?_modify, if_neg other]

theorem rewind_find?_modify (rs : Routines κ) (k j : κ)
    (pointer : ∀ r, (change r).rewind = r.rewind) :
    ((rs.modify k change).known.find? j).map Routine.rewind =
      (rs.known.find? j).map Routine.rewind := by
  rw [modify, Table.find?_modify]
  split
  · cases rs.known.find? j <;> simp [pointer]
  · rfl

end Routines

/-! ## What the lines do -/

/-- What the statements of a script change: the variables and the lines written. -/
structure Store where
  vars : Variables
  output : Record String

/-- The part of a session that the statements of a script change. -/
def Session.store (s : Session) : Store :=
  ⟨s.vars, s.output⟩

/-- The function of a name as it was defined, wherever its pointer is. -/
def Workspace.definition (w : Workspace) (name : String) : Option Routine :=
  (w.routines.known.find? (.function name)).map Routine.rewind

/-- The names of the running functions, top first. -/
def Workspace.runningNames (w : Workspace) : List String :=
  w.routines.stack.filterMap RoutineId.function?

theorem Workspace.mem_runningNames {w : Workspace} {name : String} :
    name ∈ w.runningNames ↔ .function name ∈ w.routines.stack := by
  simp only [runningNames, List.mem_filterMap]
  constructor
  · rintro ⟨id, member, same⟩
    cases id with
    | program load => cases same
    | function other =>
      cases same
      exact member
  · intro member
    exact ⟨_, member, rfl⟩

/-- With the functions `known`, of which those in `running` cannot be called, carrying out lines
the first of which stands at `position` leads from one store to another. -/
inductive Performs (known : String → Option Routine) :
    List String → Int → List String → Store → Store → Prop
  | nil {running : List String} {position : Int} (s : Store) :
      Performs known running position [] s s
  | onVariables {running : List String} {position : Int} {line : String} {rest : List String}
      {s s' : Store} {c : VariableCommand} {args : List String} {vars : Variables}
      {written : List String}
      (parsed : Debugger.vocabulary.parse line = .ok ⟨c.name, args⟩)
      (done : c.perform args (some position) s.vars = .ok (vars, written))
      (more : Performs known running (position + 1) rest ⟨vars, s.output.addAll written⟩ s') :
      Performs known running position (line :: rest) s s'
  | call {running : List String} {position : Int} {line : String} {rest : List String}
      {s s₁ s' : Store} {args : List String} {name : String} {f : Routine}
      (parsed : Debugger.vocabulary.parse line = .ok ⟨"call", args⟩)
      (named : readName args[0]? = .ok name) (found : known name = some f)
      (free : name ∉ running)
      (body : Performs known (name :: running) f.offset f.lines s s₁)
      (more : Performs known running (position + 1) rest s₁ s') :
      Performs known running position (line :: rest) s s'
  | header {running : List String} {position : Int} {line : String} {rest : List String}
      {s s' : Store} {args : List String}
      (parsed : Debugger.vocabulary.parse line = .ok ⟨Outline.header, args⟩)
      (more : Performs known running (position + 1 + (rest.takeWhile Text.isIndented).length)
        (rest.dropWhile Text.isIndented) s s') :
      Performs known running position (line :: rest) s s'

namespace Performs

variable {known known' : String → Option Routine} {running : List String} {position : Int}
  {lines : List String} {s s₁ s' : Store}

/-- More functions do no harm. -/
theorem mono (h : Performs known running position lines s s')
    (extended : ∀ name f, known name = some f → known' name = some f) :
    Performs known' running position lines s s' := by
  induction h with
  | nil s => exact .nil s
  | onVariables parsed done _ ih => exact .onVariables parsed done ih
  | call parsed named found free _ _ ihBody ih =>
    exact .call parsed named (extended _ _ found) free ihBody ih
  | header parsed _ ih => exact .header parsed ih

/-- A statement that is no header goes before other lines. -/
theorem cons (first : Performs known running position [line] s s₁)
    (other : Debugger.vocabulary.isHeader line = false)
    (more : Performs known running (position + 1) lines s₁ s') :
    Performs known running position (line :: lines) s s' := by
  cases first with
  | onVariables parsed done last =>
    cases last
    exact .onVariables parsed done more
  | call parsed named found free body last =>
    cases last
    exact .call parsed named found free body more
  | header parsed => simp [Vocabulary.isHeader, parsed] at other

end Performs

theorem isHeader_of_reads_bodyCommands
    (h : Debugger.vocabulary.reads bodyCommands line = true) :
    Debugger.vocabulary.isHeader line = false := by
  obtain ⟨statement, parsed, member⟩ := Vocabulary.reads_iff.1 h
  have other : statement.command ≠ Outline.header := by
    rintro same
    rw [same] at member
    exact absurd member (by decide)
  simp [Vocabulary.isHeader, parsed, other]

end LineLang
