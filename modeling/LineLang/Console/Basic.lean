import LineLang.Console.Highlight
import LineLang.Console.Layout
import LineLang.Console.Markup
import LineLang.Text.Lines

/-!
# Writing to the console

Lines of output are written as they are, with emoji codes resolved and tabs expanded; they are never
wrapped. Markup is highlighted, wrapped at the width of the screen, and written without a line feed
after it. `screenWidth` is a fixed number of cells, so what is written does not depend on the
terminal.
-/

namespace LineLang.Console

/-- The width of the screen in cells. -/
def screenWidth : Nat :=
  80

/-- What a line of output writes. -/
def printed (line : String) : String :=
  let text : StyledText := { chars := withoutMotion (withEmoji line.toList) }
  String.ofList (joinLines (text.expandedLines.map StyledText.chars) ++ ['\n'])

/-- What lines of output write. -/
def stream (lines : List String) : String :=
  Text.printAll printed lines

/-- Why markup cannot be written. -/
inductive Fault
  | malformed (f : MarkupFault)
  /-- A style on the text cannot be read. -/
  | unreadableStyle
  | uncroppable (f : CropFault)
  deriving DecidableEq, Repr

/-- Whether a character acts on its neighbours, so that it matters where a text is cut. -/
def isJoining (c : Char) : Bool :=
  c == joiner || c == pictureMark

/-- The lines of a text, which are at most as wide as the screen. -/
def layOut (t : StyledText) : Except CropFault (List StyledText) := do
  let t := if t.chars.any isJoining then t.highlighted else t
  let lines ← t.expandedLines.mapM (StyledText.wrap screenWidth)
  return lines.flatten

/-- What markup writes. -/
def rendered (markup : String) : Except Fault String := do
  let text ← (styledText markup).mapError .malformed
  let lines ← (layOut text).mapError .uncroppable
  if lines.all StyledText.isReadable then
    let lines ← (lines.mapM (StyledText.cropped screenWidth)).mapError .uncroppable
    return String.ofList (joinLines lines)
  else throw .unreadableStyle

end LineLang.Console
