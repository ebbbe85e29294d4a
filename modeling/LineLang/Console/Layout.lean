import LineLang.Console.StyledText
import LineLang.Console.Width
import LineLang.Text.Blank

/-!
# Layout of text on a terminal

Tabs advance to the next multiple of eight cells, and lines that are too long are wrapped between
words. A word that is longer than a line is cut. In the end the segments of a line, which styles
separate, are measured one by one: a joiner does not reach from one segment to the next.
-/

namespace LineLang.Console

/-! ## Tabs -/

/-- The distance between tab stops. -/
def tabSize : Nat :=
  8

/-- The number of spaces that each tab becomes, where tabs separate the parts of a line and the
first part begins at `column`. Every tab is at least one space. -/
def tabWidths (column : Nat) : List (List Char) → List Nat
  | [] | [_] => []
  | part :: rest =>
    let column := column + width (part ++ [' '])
    let fill := (tabSize - column % tabSize) % tabSize
    (fill + 1) :: tabWidths (column + fill) rest

namespace StyledText

/-- A text with `count` spaces in place of the tab that is its last character. A style on the tab is
on all of them. -/
def expandLast (t : StyledText) (count : Nat) : StyledText :=
  { chars := t.chars.dropLast ++ List.replicate count ' '
    spans := t.spans.map fun s =>
      if t.chars.length ≤ s.stop then { s with stop := s.stop + (count - 1) } else s }

/-- A line with spaces in place of its tabs. -/
def expandTabs (line : StyledText) : StyledText :=
  let parts := line.chars.splitOnP (· == '\t')
  match parts.getLast?, parts.dropLast with
  | none, _ | some _, [] => line
  | some last, tabbed =>
    let pieces := line.divide 0 (tabbed.map (·.length + 1) ++ [last.length])
    concat (pieces.zipWith expandLast (tabWidths 0 parts) ++ pieces.drop tabbed.length)

/-- The lines of a text, which line feeds separate, with their tabs expanded. -/
def expandedLines (t : StyledText) : List StyledText :=
  let lengths := (t.chars.splitOnP (· == '\n')).map List.length
  (t.divide 1 lengths).map expandTabs

end StyledText

/-- Lines with line feeds between them. -/
def joinLines (lines : List (List Char)) : List Char :=
  ['\n'].intercalate lines

/-! ## Wrapping -/

/-- Cuts a text before each character that is not blank and follows a blank. -/
def cutAfterBlanks : List Char → List (List Char)
  | [] => []
  | c :: rest =>
    match cutAfterBlanks rest with
    | [] => [[c]]
    | word :: words =>
      if Text.isBlank c && !word.head?.any Text.isBlank then [c] :: word :: words
      else (c :: word) :: words

/-- The words of a line, each with the blanks after it. The first one has the blanks before it as
well. -/
def spacedWords (line : List Char) : List (List Char) :=
  match cutAfterBlanks line with
  | first :: second :: rest =>
    if first.all Text.isBlank then (first ++ second) :: rest else first :: second :: rest
  | words => words

/-- Pieces of at most `limit` cells that glyphs make in turn. `piece` is the one that is being
filled and `used` its cells. -/
def chopFrom (limit : Nat) (piece : List Char) (used : Nat) : List Glyph → List (List Char)
  | [] => [piece]
  | glyph :: rest =>
    if limit < used + glyph.width then piece :: chopFrom limit glyph.chars glyph.width rest
    else chopFrom limit (piece ++ glyph.chars) (used + glyph.width) rest

/-- A word cut into pieces of at most `limit` cells. -/
def chop (limit : Nat) (word : List Char) : List (List Char) :=
  chopFrom limit [] 0 (glyphs word)

/-- Lines that are full, newest first, and the line that is being filled with its cells. -/
structure Page where
  full : List (List Char) := []
  line : List Char := []
  used : Nat := 0
  deriving DecidableEq, Repr

namespace Page

/-- Goes on with a new line, which holds `line`. -/
def turn (p : Page) (line : List Char) : Page :=
  { full := p.line :: p.full, line, used := width line }

/-- Puts the pieces of a long word on lines of their own. On an empty page the first piece needs no
new line. -/
def putPieces (p : Page) : List (List Char) → Page
  | [] => p
  | first :: rest =>
    let start : Page :=
      if p.full.isEmpty && p.line.isEmpty then { line := first, used := width first }
      else p.turn first
    rest.foldl turn start

/-- Puts a word on the page. The blanks after it may reach beyond the limit. -/
def put (limit : Nat) (p : Page) (word : List Char) : Page :=
  let needed := width (Text.trimEnd word)
  if p.used + needed ≤ limit then
    { p with line := p.line ++ word, used := p.used + width word }
  else if limit < needed then p.putPieces (chop limit word)
  else p.turn word

/-- All lines. -/
def lines (p : Page) : List (List Char) :=
  (p.line :: p.full).reverse

end Page

/-- The pieces of at most `limit` cells that a line is cut into. Blanks at the end of a piece may
reach beyond them. -/
def wrapped (limit : Nat) (line : List Char) : List (List Char) :=
  ((spacedWords line).foldl (Page.put limit) {}).lines

/-- A line without the blanks at its end that stand beyond `limit` characters. -/
def dropExcess (limit : Nat) (line : List Char) : List Char :=
  let blanks := (line.reverse.takeWhile Text.isBlank).length
  line.take (line.length - Nat.min blanks (line.length - limit))

/-! ## Cropping -/

/-- Why a text that is too wide cannot be cut off. Both happen to a text that begins with joiners
only, because it is wider than its glyphs. -/
inductive CropFault
  /-- The glyphs of the text take no cells. -/
  | noCells
  /-- The glyphs of the text take fewer cells than there are. -/
  | fewCells
  deriving DecidableEq, Repr

/-- The glyphs that fit into `limit` cells, and a space in place of the half of one that does
not. -/
def fit (limit : Nat) : List Glyph → List Char
  | [] => []
  | glyph :: rest =>
    if glyph.width ≤ limit then glyph.chars ++ fit (limit - glyph.width) rest
    else List.replicate limit ' '

/-- A text cut off at `limit` cells. -/
def crop (limit : Nat) (cs : List Char) : Except CropFault (List Char) :=
  let glyphs := glyphs cs
  let cells := Glyph.totalWidth glyphs
  if width cs ≤ limit then .ok cs
  else if cells = 0 then .error .noCells
  else if cells < limit then .error .fewCells
  else .ok (fit limit glyphs)

/-- The lines of at most `limit` cells that a line makes. -/
def StyledText.wrap (limit : Nat) (line : StyledText) : Except CropFault (List StyledText) :=
  let pieces := line.divide 0 ((wrapped limit line.chars).map List.length)
  pieces.mapM fun piece => do
    let piece := piece.withChars (dropExcess limit piece.chars)
    let chars ← crop limit piece.chars
    return piece.withChars chars

/-- The segments of a line that come within `limit` cells, `used` of which are taken. The first one
that reaches the limit is cut off there, and those after it are dropped. -/
def cropSegments (limit used : Nat) : List (List Char) → Except CropFault (List Char)
  | [] => .ok []
  | segment :: rest =>
    let reached := used + width segment
    if reached < limit then (cropSegments limit reached rest).map (segment ++ ·)
    else crop (limit - used) segment

/-- The characters of a line whose segments are measured one by one and cut off at `limit` cells. -/
def StyledText.cropped (limit : Nat) (line : StyledText) : Except CropFault (List Char) :=
  if totalWidth line.segments ≤ limit then .ok line.chars
  else cropSegments limit 0 line.segments

end LineLang.Console
