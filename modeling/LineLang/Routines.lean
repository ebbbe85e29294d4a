import LineLang.Routine
import LineLang.Table

/-!
# Running routines

The routines that are known, each under a key, and the stack of those that are running. The stack
holds keys, so a routine that is called while it runs has two frames and still one pointer.
-/

namespace LineLang

/-- Routines by key, and the keys of the running ones, top first. -/
structure Routines (κ : Type) where
  known : Table κ Routine := {}
  stack : List κ := []
  deriving DecidableEq, Repr

namespace Routines

variable {κ : Type}

/-- The number of frames. -/
def depth (rs : Routines κ) : Nat :=
  rs.stack.length

/-- The key of the frame on top. -/
def top? (rs : Routines κ) : Option κ :=
  rs.stack.head?

/-- Puts a frame on top. -/
def push (rs : Routines κ) (k : κ) : Routines κ :=
  { rs with stack := k :: rs.stack }

/-- Takes the top frame away. -/
def pop (rs : Routines κ) : Routines κ :=
  { rs with stack := rs.stack.tail }

/-- Takes the top frame away and gives its key, if there is a frame. -/
def pop? (rs : Routines κ) : Option (κ × Routines κ) :=
  rs.top?.map fun k => (k, rs.pop)

variable [DecidableEq κ]

/-- The routine under a key; a routine without statements if there is none. -/
def routine (rs : Routines κ) (k : κ) : Routine :=
  (rs.known.find? k).getD default

/-- The running routines, top first. -/
def running (rs : Routines κ) : List Routine :=
  rs.stack.map rs.routine

/-- Changes the routine under a key. -/
def modify (rs : Routines κ) (k : κ) (change : Routine → Routine) : Routines κ :=
  { rs with known := rs.known.modify k change }

/-- Makes a routine known under a key. -/
def register (rs : Routines κ) (k : κ) (r : Routine) : Routines κ :=
  { rs with known := rs.known.insert k r }

/-- The place in the script of the frame on top. -/
def position? (rs : Routines κ) : Option Int :=
  rs.top?.map fun k => (rs.routine k).position

/-- The active calls, topmost first: each called routine with the position right before its
caller's pointer. -/
def trace (rs : Routines κ) : List (Int × String) :=
  rs.running.zipWith (fun callee caller => (caller.position - 1, callee.name)) rs.running.tail

end Routines

end LineLang
