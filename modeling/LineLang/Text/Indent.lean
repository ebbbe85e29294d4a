import LineLang.Text.Lines

/-!
# Indentation

The body of a function is indented by one unit below its header.
-/

namespace LineLang.Text

/-- One unit of indentation: four spaces. -/
def indent : List Char :=
  [' ', ' ', ' ', ' ']

/-- An indented line without one unit of its indentation. -/
def dedent? (line : String) : Option String :=
  (after? indent line.toList).map String.ofList

/-- Whether a line is indented by at least one unit. -/
def isIndented (line : String) : Bool :=
  (dedent? line).isSome

end LineLang.Text
