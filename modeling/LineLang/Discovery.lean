import LineLang.Outline
import LineLang.Workspace

/-!
# Discovery

Reading a script defines the functions that are found in it. What is left over is the main program.
-/

namespace LineLang

/-- What a script is made of: its functions and the statements of its main program. -/
structure Discovery where
  functions : List Routine
  main : List String
  deriving DecidableEq, Repr

/-- Reads a script whose first line stands at `offset` and defines the functions that are found. If
there is a fault, these are the functions above it. -/
def Workspace.discover (v : Vocabulary) (offset : Int) (lines : List String) (w : Workspace) :
    Reply Workspace Discovery :=
  let (found, fault) := Outline.scan v w.isDefined offset lines
  let defined := found.functions.foldl .addFunction w
  match fault with
  | some f => .fault defined f
  | none => .ok defined ⟨found.functions, found.main⟩

end LineLang
