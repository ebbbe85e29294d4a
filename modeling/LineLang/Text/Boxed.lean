/-!
# Boxed tables

A table with a title, a head and a body, drawn with box characters. The frame of the head is heavy,
that of the body is light. Every column is as wide as its widest cell, with one space on both sides.
-/

namespace LineLang.Text.Boxed

/-- Spaces. -/
def blanks (n : Nat) : String :=
  String.ofList (List.replicate n ' ')

/-- The cell filled up to `width` characters, between two spaces. -/
def cell (width : Nat) (text : String) : String :=
  " " ++ text ++ blanks (width - text.length) ++ " "

/-- One line of the drawing: the columns between a left end, dividers and a right end. -/
def row (left divider right : String) (columns : List String) : String :=
  left ++ divider.intercalate columns ++ right

/-- A horizontal rule over columns of the given widths. -/
def rule (left divider right : String) (stroke : Char) (widths : List Nat) : String :=
  row left divider right (widths.map fun w => String.ofList (List.replicate (w + 2) stroke))

/-- The width of each column: that of its widest cell, the head included. -/
def widths (head : List String) (body : List (List String)) : List Nat :=
  body.foldl (fun ws cells => ws.zipWith Nat.max (cells.map String.length)) (head.map String.length)

/-- The title in the middle of `width` characters; an odd space goes after it. -/
def centred (width : Nat) (title : String) : String :=
  let free := width - title.length
  blanks (free / 2) ++ title ++ blanks (free - free / 2)

/-- The lines of the drawing, from the title to the lower rule. -/
def render (title : String) (head : List String) (body : List (List String)) : List String :=
  let ws := widths head body
  let top := rule "┏" "┳" "┓" '━' ws
  [centred top.length title,
   top,
   row "┃" "┃" "┃" (ws.zipWith cell head),
   rule "┡" "╇" "┩" '━' ws] ++
  body.map (fun cells => row "│" "│" "│" (ws.zipWith cell cells)) ++
  [rule "└" "┴" "┘" '─' ws]

end LineLang.Text.Boxed
