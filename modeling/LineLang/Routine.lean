import LineLang.Failure

/-!
# Routines

A routine is a run of statements with its own pointer: a program or the body of a function. Its
offset places its first statement in the script that it was found in.
-/

namespace LineLang

/-- A named run of statements with a pointer into it. -/
structure Routine where
  name : String
  lines : List String := []
  offset : Int := 0
  pointer : Int := 0
  deriving DecidableEq, Repr, Inhabited

namespace Routine

/-- The place of the pointer in the script. -/
def position (r : Routine) : Int :=
  r.offset + r.pointer

/-- Whether the pointer stands right after the last statement. -/
def atEnd (r : Routine) : Bool :=
  r.pointer = r.lines.length

/-- The statement that the pointer is on. A negative pointer counts from the end. -/
def statement? (r : Routine) : Option String :=
  if 0 ≤ r.pointer then r.lines[r.pointer.toNat]?
  else if 0 ≤ r.lines.length + r.pointer then r.lines[(r.lines.length + r.pointer).toNat]?
  else none

/-- The largest pointer that fits into a machine word; the smallest is one further from zero. -/
def maxPointer : Int :=
  9223372036854775807

/-- The statement that the pointer is on, wherever the pointer was put. -/
def statement (r : Routine) : Except Crash String :=
  if maxPointer < r.pointer ∨ r.pointer < -maxPointer - 1 then .error .pointerTooLarge
  else match r.statement? with
    | some line => .ok line
    | none => .error .noStatement

/-- Puts the pointer on a statement. -/
def pointAt (r : Routine) (pointer : Int) : Routine :=
  { r with pointer }

/-- Moves the pointer on by one statement. -/
def advance (r : Routine) : Routine :=
  r.pointAt (r.pointer + 1)

/-- Puts the pointer back on the first statement. -/
def rewind (r : Routine) : Routine :=
  r.pointAt 0

/-- Adds a statement at the end. -/
def append (r : Routine) (line : String) : Routine :=
  { r with lines := r.lines ++ [line] }

end Routine

end LineLang
