import LineLang.Console.Emoji
import LineLang.Console.Style
import LineLang.Console.StyledText
import LineLang.Literal.Basic
import LineLang.Text.WordChar

/-!
# Markup

Text with tags in square brackets: `[bold]` opens a style and `[/bold]` or `[/]` closes it. A tag
begins with a small letter or with one of `#`, `/` and `@`; brackets around anything else are text.
A backslash before a tag makes it text, and two backslashes before a tag stand for one. Tags whose
names begin with `@` are actions.
-/

namespace LineLang.Console

/-! ## Pieces -/

/-- A tag: its name, and what follows the equals sign in it. -/
structure Tag where
  name : String
  parameters : Option String := none
  deriving DecidableEq, Repr

/-- A piece of markup. -/
inductive Piece
  | text (cs : List Char)
  | tag (t : Tag)
  deriving DecidableEq, Repr

/-- The tag of the text between its brackets. -/
def Tag.ofContent (content : List Char) : Tag :=
  let name := String.ofList (content.takeWhile (· != '='))
  match content.dropWhile (· != '=') with
  | [] => { name }
  | _ :: parameters => { name, parameters := some (String.ofList parameters) }

/-- Whether a tag can begin with a character. -/
def isTagStart (c : Char) : Bool :=
  ('a' ≤ c && c ≤ 'z') || c == '#' || c == '/' || c == '@'

/-- The content of a tag and the text after it, where `cs` follows an opening bracket. -/
def splitTag? (cs : List Char) : Option (List Char × List Char) :=
  match cs with
  | c :: _ =>
    match cs.dropWhile (· != ']') with
    | _ :: rest => if isTagStart c then some (cs.takeWhile (· != ']'), rest) else none
    | [] => none
  | [] => none

/-- The number of backslashes at the end of a text, and the text before them. -/
def splitBackslashes (cs : List Char) : List Char × Nat :=
  let count := (cs.reverse.takeWhile (· == '\\')).length
  (cs.take (cs.length - count), count)

/-- The pieces that a tag makes with the text before it. -/
def tagPieces (before content : List Char) : List Piece :=
  let (plain, count) := splitBackslashes before
  let tag := if count % 2 = 0 then .tag (.ofContent content) else .text ('[' :: content ++ [']'])
  [.text plain, .text (List.replicate (count / 2) '\\'), tag]

/-- The pieces of markup that was cut at its opening brackets. `before` is the text since the last
tag. -/
def piecesFrom (before : List Char) : List (List Char) → List Piece
  | [] => [.text before]
  | cs :: rest =>
    match splitTag? cs with
    | some (content, after) => tagPieces before content ++ piecesFrom after rest
    | none => piecesFrom (before ++ '[' :: cs) rest

/-- The pieces of markup. -/
def pieces (markup : String) : List Piece :=
  match markup.toList.splitOnP (· == '[') with
  | [] => []
  | before :: rest => piecesFrom before rest

/-! ## Tags -/

/-- What can be wrong with markup. -/
inductive MarkupFault
  /-- `[/]` where nothing is open. -/
  | nothingOpen
  /-- A closing tag whose style is not open. -/
  | notOpen (name : String)
  /-- The arguments of an action are not literals. -/
  | malformedArguments (arguments : String)
  /-- A part of a colour is not written or has too many digits. -/
  | unreadableNumber
  deriving DecidableEq, Repr

/-- The canonical name of a tag. -/
def canonicalName (name : String) : Except MarkupFault String :=
  (Style.canonical name).mapError fun _ => .unreadableNumber

/-- The style of a tag. -/
def Tag.style (t : Tag) : String :=
  match t.parameters with
  | some parameters => t.name ++ " " ++ parameters
  | none => t.name

/-- The arguments of an action: those in parentheses after its name, or else all parameters. A name
alone has none. -/
def actionArguments (parameters : String) : List Char :=
  let cs := (Text.trim parameters).toList
  let rest := cs.dropWhile fun c => Text.isWordChar c || c == '.'
  if rest.isEmpty then "()".toList
  else if rest.head? = some '(' ∧ rest.getLast? = some ')' ∧ '\n' ∉ rest then rest
  else cs

/-- Whether a tag is an action. -/
def Tag.isAction (t : Tag) : Bool :=
  t.name.toList.head? == some '@'

/-- Checks a tag that is closed. Only actions have arguments. -/
def Tag.check (t : Tag) : Except MarkupFault Unit :=
  let parameters := t.parameters.getD ""
  if !t.isAction || parameters.isEmpty || Literal.isLiteral (actionArguments parameters) then .ok ()
  else .error (.malformedArguments parameters)

/-- Whether the style of a tag can be read. -/
def Tag.isReadable (t : Tag) : Bool :=
  (Style.canonical t.style).isOk

/-! ## Text -/

/-- The text that was read, and the tags that are open with the positions where they were opened,
innermost first. -/
structure Reading where
  text : StyledText := {}
  tags : List (Nat × Tag) := []

namespace Reading

/-- The position that was reached. -/
def position (r : Reading) : Nat :=
  r.text.chars.length

/-- Puts a style on the text from `start` on. -/
def mark (r : Reading) (start : Nat) (readable : Bool) : Reading :=
  { r with text.spans := ⟨start, r.position, readable⟩ :: r.text.spans }

/-- Closes a tag that is open, after a check. The style of an action can always be read. -/
def close (r : Reading) (start : Nat) (t : Tag) : Except MarkupFault Reading := do
  t.check
  return { r with tags := r.tags.erase (start, t) }.mark start (t.isAction || t.isReadable)

/-- Opens or closes a tag. A closing tag without a name closes the innermost one. -/
def apply (r : Reading) (t : Tag) : Except MarkupFault Reading :=
  match t.name.toList with
  | '/' :: name =>
    let name := Text.trim (String.ofList name)
    if name.isEmpty then
      match r.tags with
      | [] => .error .nothingOpen
      | (start, innermost) :: _ => r.close start innermost
    else do
      let name ← canonicalName name
      match r.tags.find? (·.2.name = name) with
      | none => throw (.notOpen name)
      | some (start, found) => r.close start found
  | _ => do
    let name ← canonicalName t.name
    return { r with tags := (r.position, { t with name }) :: r.tags }

/-- A bracket that no tag begins with may be protected by a backslash. -/
def unescapeBrackets : List Char → List Char
  | '\\' :: '[' :: rest => '[' :: unescapeBrackets rest
  | c :: rest => c :: unescapeBrackets rest
  | [] => []

/-- Reads a piece of markup. -/
def put (r : Reading) : Piece → Except MarkupFault Reading
  | .text cs =>
    let chars := withoutMotion (withEmoji (unescapeBrackets cs))
    .ok { r with text.chars := r.text.chars ++ chars }
  | .tag t => r.apply t

/-- The text in the end, when every tag that is still open reaches to its end. -/
def finish (r : Reading) : StyledText :=
  (r.tags.foldl (fun r (start, t) => r.mark start t.isReadable) r).text

end Reading

/-- The text of markup, with emoji codes resolved. -/
def styledText (markup : String) : Except MarkupFault StyledText :=
  ((pieces markup).foldlM Reading.put {}).map Reading.finish

end LineLang.Console
