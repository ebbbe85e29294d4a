import LineLang.Argument
import LineLang.Routine
import LineLang.Statement
import LineLang.Text.Indent

/-!
# Outlines of scripts

One pass over a script finds the functions that it defines. A `def` header opens a function, the
indented lines right below it, less one unit of indentation, are its body, and every other line is
a statement of the main program, the headers included.
-/

namespace LineLang

/-- What a pass over a script has found. -/
structure Outline where
  /-- Functions whose body is complete, in order. -/
  closed : List Routine := []
  /-- The function whose body is being read. -/
  current : Option Routine := none
  /-- Statements of the main program, in order. -/
  main : List String := []
  deriving DecidableEq, Repr

namespace Outline

/-- All functions found, in order. -/
def functions (o : Outline) : List Routine :=
  o.closed ++ o.current.toList

/-- The name of the command that defines a function. -/
def header : String :=
  "def"

/-- Reads a line that belongs to no body. The names that `taken` holds of were in use before the
pass. -/
def readTopLevel (v : Vocabulary) (taken : String → Bool) (position : Int) (line : String)
    (o : Outline) : Except Fault Outline :=
  match v.parse line with
  | .error f => .error f
  | .ok statement =>
    if statement.command ≠ header then
      .ok { closed := o.functions, main := o.main ++ [line] }
    else
      match readName statement.args[0]? with
      | .error f => .error f
      | .ok name =>
        if taken name || o.functions.any (·.name = name) then .error (.redefinedFunction name)
        else
          .ok { closed := o.functions,
                current := some { name, offset := position + 1 },
                main := o.main ++ [line] }

/-- Reads one line, which stands at `position` of the script. -/
def readLine (v : Vocabulary) (taken : String → Bool) (position : Int) (line : String)
    (o : Outline) : Except Fault Outline :=
  match o.current, Text.dedent? line with
  | some r, some body => .ok { o with current := some (r.append body) }
  | _, _ => o.readTopLevel v taken position line

/-- Reads lines up to the first fault. What was found before it is kept. -/
def readLines (v : Vocabulary) (taken : String → Bool) :
    Int → List String → Outline → Outline × Option Fault
  | _, [], o => (o, none)
  | position, line :: rest, o =>
    match o.readLine v taken position line with
    | .ok o => readLines v taken (position + 1) rest o
    | .error f => (o, some f)

/-- The outline of a script whose first line stands at `offset`, and the fault that ended the
pass, if one did. -/
def scan (v : Vocabulary) (taken : String → Bool) (offset : Int) (lines : List String) :
    Outline × Option Fault :=
  readLines v taken offset lines {}

end Outline

end LineLang
