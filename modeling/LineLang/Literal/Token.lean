import LineLang.Literal.Quotation

/-!
# Tokens of literals

Tokens are numbers, quotations, constants and marks. Spaces, tabs and form feeds separate them, `#`
begins a comment, and line ends count only outside of brackets: there the first one ends the
literal.
-/

namespace LineLang.Literal

/-- The smallest parts of a literal. -/
inductive Token
  | number (n : Number)
  | quotation (bytes : Bool)
  | constant
  /-- The word `set`. -/
  | setWord
  | mark (c : Char)
  deriving DecidableEq, Repr

/-! ## Words -/

/-- The constants that are words. -/
def constantWords : List String :=
  ["True", "False", "None"]

/-- The characters beyond ASCII that may be written for each letter of `set`. -/
def letterForms : List (Char × List Nat) :=
  [('s',
    [0x17f, 0x2e2, 0x209b, 0xff53, 0x1d42c, 0x1d460, 0x1d494, 0x1d4c8, 0x1d4fc, 0x1d530, 0x1d564,
     0x1d598, 0x1d5cc, 0x1d600, 0x1d634, 0x1d668, 0x1d69c]),
   ('e',
    [0x1d49, 0x2091, 0x212f, 0x2147, 0xff45, 0x1d41e, 0x1d452, 0x1d486, 0x1d4ee, 0x1d522, 0x1d556,
     0x1d58a, 0x1d5be, 0x1d5f2, 0x1d626, 0x1d65a, 0x1d68e]),
   ('t',
    [0x1d57, 0x209c, 0xff54, 0x1d42d, 0x1d461, 0x1d495, 0x1d4c9, 0x1d4fd, 0x1d531, 0x1d565, 0x1d599,
     0x1d5cd, 0x1d601, 0x1d635, 0x1d669, 0x1d69d])]

/-- The letter of `set` that a character is a form of, or else the character itself. -/
def plainLetter (c : Char) : Char :=
  ((letterForms.find? fun (_, forms) => c.toNat ∈ forms).map Prod.fst).getD c

/-- The token of a word. -/
def wordToken? (word : List Char) : Option Token :=
  if String.ofList word ∈ constantWords then some .constant
  else if word.map plainLetter = ['s', 'e', 't'] then some .setWord
  else none

/-! ## Blank lines -/

/-- Whether a character separates tokens. -/
def isSeparator (c : Char) : Bool :=
  c == ' ' || c == '\t' || c == '\x0c'

/-- What is known about the beginning of a line. -/
structure LineStart where
  /-- A comment has begun. -/
  comment : Bool := false
  /-- Blanks stand at the beginning. -/
  indented : Bool := false
  /-- Blanks stood at the beginning of a line that this one continues. -/
  continues : Bool := false
  deriving DecidableEq, Repr

/-- Skips blank lines and comments. The first line that is not blank must not be indented; a form
feed takes the blanks before it back. -/
def skipBlankLines? (start : LineStart) : List Char → Option (List Char)
  | [] => some []
  | '\\' :: '\n' :: rest =>
    if start.comment then skipBlankLines? {} rest
    else if rest.isEmpty then none
    else skipBlankLines? { start with continues := start.continues || start.indented } rest
  | c :: rest =>
    if c = '\n' then skipBlankLines? {} rest
    else if start.comment then skipBlankLines? start rest
    else if c = '#' then skipBlankLines? { start with comment := true } rest
    else if c = '\x0c' then skipBlankLines? { start with indented := false } rest
    else if isSeparator c then skipBlankLines? { start with indented := true } rest
    else if start.indented || start.continues then none
    else some (c :: rest)

/-! ## Tokens -/

/-- How deep brackets may be nested. -/
def maxNesting : Nat :=
  200

/-- The marks outside of brackets. -/
def marks : List Char :=
  [',', ':', '+', '-']

/-- The opening brackets. -/
def openingMarks : List Char :=
  ['(', '\x7b']

/-- The closing brackets. -/
def closingMarks : List Char :=
  [')', '\x7d']

/-- Whether a number begins a text. -/
def startsWithNumber : List Char → Bool
  | '.' :: c :: _ => c.isDigit
  | c :: _ => c.isDigit
  | [] => false

/-- Reads the quotation or word that a text begins with, or three points. -/
def readWord? (cs : List Char) : Option (Token × List Char) :=
  let word := cs.takeWhile isNameChar
  let rest := cs.dropWhile isNameChar
  match cs, rest.head?.any isQuote, QuotationKind.ofLetters? word with
  | '.' :: '.' :: '.' :: rest, _, _ => some (.constant, rest)
  | _, true, some k => (readQuotation? k rest).map fun rest => (.quotation k.bytes, rest)
  | _, _, _ => (wordToken? word).map fun token => (token, rest)

/-- Reads the token that a text begins with, if it is no mark. -/
def readToken? (cs : List Char) : Option (Token × List Char) :=
  if startsWithNumber cs then (readNumber? cs).map fun (n, rest) => (.number n, rest)
  else readWord? cs

/-- The tokens of a text inside of `depth` brackets, one for each unit of `fuel` at most; as much
fuel as there are characters is enough. -/
def tokensFrom? : (fuel depth : Nat) → List Char → Option (List Token)
  | _, depth, [] => if depth = 0 then some [] else none
  | 0, _, _ => none
  | fuel + 1, depth, c :: rest =>
    if isSeparator c then tokensFrom? fuel depth rest
    else if c = '#' then tokensFrom? fuel depth (rest.dropWhile (· != '\n'))
    else if c = '\\' then
      if rest.head? = some '\n' ∧ 1 < rest.length then tokensFrom? fuel depth rest.tail else none
    else if c = '\n' then
      if depth = 0 then if skipBlankLines? {} rest = some [] then some [] else none
      else tokensFrom? fuel depth rest
    else if c ∈ marks then (tokensFrom? fuel depth rest).map (.mark c :: ·)
    else if c ∈ openingMarks then
      if depth < maxNesting then (tokensFrom? fuel (depth + 1) rest).map (.mark c :: ·) else none
    else if c ∈ closingMarks then
      if 0 < depth then (tokensFrom? fuel (depth - 1) rest).map (.mark c :: ·) else none
    else do
      let (token, rest) ← readToken? (c :: rest)
      let tokens ← tokensFrom? fuel depth rest
      return token :: tokens

/-- The tokens of a text. -/
def tokens? (cs : List Char) : Option (List Token) := do
  let start ← skipBlankLines? {} (Text.unifyLineEnds cs)
  if '\x00' ∈ cs then none else tokensFrom? start.length 0 start

end LineLang.Literal
