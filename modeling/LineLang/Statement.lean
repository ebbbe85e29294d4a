import LineLang.Fault
import LineLang.Text.Lines

/-!
# Statements

A statement is the name of a command followed by arguments that are separated by spaces. A name may
consist of several words and may begin with another name, so `Vocabulary.parse` takes the longest
name that stands at the start of the line as whole words.
-/

namespace LineLang

/-- A command name with its arguments. -/
structure Statement where
  command : String
  args : List String
  deriving DecidableEq, Repr

/-- The names of the commands, longest first. -/
structure Vocabulary where
  names : List String
  deriving DecidableEq, Repr

namespace Vocabulary

/-- Longer names come first, names of one length in the order of their characters. -/
def precedes (a b : String) : Bool :=
  b.length < a.length || a.length == b.length && a < b

/-- Puts a name in its place; a name that is there already is not put in again. -/
def place (name : String) : List String → List String
  | [] => [name]
  | other :: rest =>
    if name = other then other :: rest
    else if precedes name other then name :: other :: rest
    else other :: place name rest

/-- The vocabulary of a list of names. -/
def ofNames (names : List String) : Vocabulary :=
  ⟨names.foldr place []⟩

/-- The names tried on a line. Without any name the empty name is tried. -/
def candidates (v : Vocabulary) : List String :=
  if v.names.isEmpty then [""] else v.names

/-- What follows the name on the line, if the name stands at its start as whole words. -/
def rest? (name line : String) : Option (List Char) :=
  match Text.after? name.toList line.toList with
  | some [] => some []
  | some (' ' :: rest) => some (' ' :: rest)
  | _ => none

/-- Splits a line into a command name and its arguments. -/
def parse (v : Vocabulary) (line : String) : Except Fault Statement :=
  match v.candidates.findSome? fun name =>
      (rest? name line).map fun rest => Statement.mk name (Text.tokens rest) with
  | some statement => .ok statement
  | none => .error .unknownCommand

end Vocabulary

end LineLang
