import LineLang.Failure
import LineLang.Statement

/-!
# Repertoires

The commands that an interpreter understands. A statement begins with the name of a command, so a
repertoire gives the vocabulary in which lines are read, and says which command a line is for.
-/

namespace LineLang

/-- The commands of an interpreter, in the order in which they are listed. Every command is on the
list, and no two have the same name. -/
structure Repertoire (γ : Type) where
  all : List γ
  name : γ → String
  complete : ∀ c, c ∈ all
  distinct : (all.map name).Nodup

namespace Repertoire

variable {γ σ : Type}

/-- The names of the commands. -/
def vocabulary (r : Repertoire γ) : Vocabulary :=
  .ofNames (r.all.map r.name)

/-- The command of a name. -/
def ofName? (r : Repertoire γ) (name : String) : Option γ :=
  r.all.find? (r.name · = name)

/-- Finds the command of a line and carries it out with `act`. -/
def dispatch (r : Repertoire γ) (act : List String → σ → γ → Reply σ Unit) (line : String)
    (s : σ) : Reply σ Unit :=
  match r.vocabulary.parse line with
  | .error f => .fault s f
  | .ok statement =>
    match r.ofName? statement.command with
    | some command => act statement.args s command
    | none => .crash s (.noEntry statement.command)

end Repertoire

end LineLang
