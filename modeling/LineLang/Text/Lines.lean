/-!
# Pieces and lines of a text

A text is cut at its separators and the empty pieces are dropped. The tokens of a statement and the
lines of a script are both obtained this way; tokens are separated by single characters, while a
line may also end with the two characters CR LF.
-/

namespace LineLang.Text

/-- The non-empty pieces of a text between the characters that satisfy `sep`. -/
def pieces (sep : Char → Bool) (cs : List Char) : List String :=
  ((cs.splitOnP sep).filter (!·.isEmpty)).map String.ofList

/-- Tokens are separated by spaces; a tab or any other blank belongs to its token. -/
def tokens (cs : List Char) : List String :=
  pieces (· == ' ') cs

/-- What remains of `cs` after `start`, if `cs` begins with it. -/
def after? : (start cs : List Char) → Option (List Char)
  | [], cs => some cs
  | _ :: _, [] => none
  | a :: start, c :: cs => if a = c then after? start cs else none

/-! ## Lines -/

/-- A line ends at CR, at LF and at CR LF. -/
def isLineEnd (c : Char) : Bool :=
  c == '\r' || c == '\n'

/-- The lines of a text, the empty ones too, where `pending` is the line that is still open, newest
character first. -/
def linesFrom (pending : List Char) : List Char → List (List Char)
  | [] => [pending.reverse]
  | '\r' :: '\n' :: rest => pending.reverse :: linesFrom [] rest
  | c :: rest =>
    if isLineEnd c then pending.reverse :: linesFrom [] rest else linesFrom (c :: pending) rest

/-- The non-empty lines of a script, whatever its line ends. -/
def scriptLines (script : String) : List String :=
  ((linesFrom [] script.toList).filter (!·.isEmpty)).map String.ofList

/-- A line without the line ends that close it. -/
def chomp (line : String) : String :=
  String.ofList (line.toList.reverse.dropWhile isLineEnd).reverse

/-- CR LF and a lone CR become LF. -/
def unifyLineEnds (cs : List Char) : List Char :=
  (cs.zip ('\n' :: cs)).filterMap fun (c, before) =>
    if c = '\n' ∧ before = '\r' then none else some (if c = '\r' then '\n' else c)

/-- The lines of a text file. The last line needs no line end, and nothing is no line. -/
def fileLines (text : String) : List String :=
  let parts := ((unifyLineEnds text.toList).splitOnP (· == '\n')).map String.ofList
  if parts.getLast? = some "" then parts.dropLast else parts

/-- Lines as one text, where `print` says what a line writes. -/
def printAll (print : String → String) (lines : List String) : String :=
  String.join (lines.map print)

/-- Lines as the text of a stream: each is followed by a line end. -/
def stream (lines : List String) : String :=
  printAll (· ++ "\n") lines

end LineLang.Text
