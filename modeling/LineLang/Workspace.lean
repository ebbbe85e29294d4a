import LineLang.Fault
import LineLang.Routines

/-!
# Workspaces

What statements read and write: the variables with the position of their last change, the functions,
and the stack of running routines.
-/

namespace LineLang

/-! ## Variables -/

/-- The value of a variable and the position of its last change, if it was changed at a position. -/
structure Variable where
  value : Int
  changedAt : Option Int
  deriving DecidableEq, Repr

/-- Variables in the order in which they were set. -/
abbrev Variables :=
  Table String Variable

namespace Variables

/-- The value of a variable that is set. -/
def read (vs : Variables) (name : String) : Except Fault Int :=
  match vs.find? name with
  | some v => .ok v.value
  | none => .error .unsetVariable

/-- Sets a variable at a position. -/
def write (vs : Variables) (name : String) (value : Int) (position : Option Int) : Variables :=
  vs.insert name ⟨value, position⟩

/-- Removes a variable that is set. -/
def remove? (vs : Variables) (name : String) : Option Variables :=
  if vs.contains name then some (vs.erase name) else none

/-- The listing of the variables: name, value and position of the last change. -/
def listing (vs : Variables) : List String :=
  vs.entries.map fun (name, v) =>
    name ++ " " ++ toString v.value ++ " " ++
      (match v.changedAt with
      | some position => toString position
      | none => "-")

end Variables

/-! ## Routines -/

/-- How a routine is known: programs by the number of loads before them, functions by name. -/
inductive RoutineId
  | program (load : Nat)
  | function (name : String)
  deriving DecidableEq, Repr

/-- The function that an identity is of. -/
def RoutineId.function? : RoutineId → Option String
  | program _ => none
  | function name => some name

/-- Variables and routines. -/
structure Workspace where
  vars : Variables := {}
  routines : Routines RoutineId := {}
  deriving DecidableEq, Repr

namespace Workspace

/-- The functions in the order of their definition. -/
def functions (w : Workspace) : List Routine :=
  w.routines.known.entries.filterMap fun (id, r) => id.function?.map fun _ => r

/-- Whether a function of that name is defined. -/
def isDefined (w : Workspace) (name : String) : Bool :=
  w.routines.known.contains (.function name)

/-- The function of a name. -/
def function (w : Workspace) (name : String) : Except Fault Routine :=
  match w.routines.known.find? (.function name) with
  | some r => .ok r
  | none => .error (.undefinedFunction name)

/-- Registers a function under its name, whether or not the name is taken. -/
def addFunction (w : Workspace) (r : Routine) : Workspace :=
  { w with routines := w.routines.register (.function r.name) r }

/-- Defines a function; a name is defined only once. -/
def define (w : Workspace) (r : Routine) : Except Fault Workspace :=
  if w.isDefined r.name then .error (.redefinedFunction r.name) else .ok (w.addFunction r)

/-- The position at which a statement acts: that of the top frame, or else the one given for
statements outside every frame. -/
def positionOr (w : Workspace) (outside : Option Int) : Option Int :=
  match w.routines.position? with
  | some position => some position
  | none => outside

end Workspace

end LineLang
