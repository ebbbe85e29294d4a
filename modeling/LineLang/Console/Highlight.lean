import LineLang.Console.StyledText
import LineLang.Text.Digits
import LineLang.Text.Pattern

/-!
# Highlighting

Parts of a text that look like values are highlighted, which puts styles on them: tags, attributes,
brackets, addresses, calls, constants, numbers, paths, quotations.
-/

namespace LineLang.Console

open LineLang.Text (isWordChar isDecimalDigit)
open LineLang.Text.Pattern

namespace Highlight

/-! ## Classes of characters -/

/-- A hexadecimal digit. -/
def isHexDigit (c : Char) : Bool :=
  c.isDigit || ('a' ≤ c && c ≤ 'f') || ('A' ≤ c && c ≤ 'F')

/-- A character in the part of a path between two slashes. -/
def isPathChar (c : Char) : Bool :=
  isWordChar c || c ∈ "-._+".toList

/-- A character of the address after the scheme. -/
def isAddressChar (c : Char) : Bool :=
  c.isAlphanum || c ∈ "-$_+!`(),.?/;:&=%#~@".toList

/-! ## Patterns -/

/-- An opening and a closing angle bracket, with a name after the first one. -/
def tag : Text.Pattern :=
  all
    [marked (literally "<"),
     marked (atLeast 0 (one fun c => isWordChar c || c ∈ "-.:|".toList)),
     marked (atLeast 0 (one fun _ => true)),
     marked (literally ">")]

/-- A name and a value with an equals sign between them. -/
def assignment : Text.Pattern :=
  let quote := optional (literally "\"")
  all
    [marked (between 1 50 (one isWordChar)),
     literally "=",
     optional (marked (all [quote, atLeast 1 (one isWordChar), quote]))]

/-- A bracket. -/
def bracket : Text.Pattern :=
  marked (oneOf "][\x7b\x7d()")

/-- Decimal digits. -/
def digits (least : Nat) : Text.Pattern :=
  atLeast least (one Char.isDigit)

/-- Hexadecimal digits. -/
def hexDigits (least most : Nat) : Text.Pattern :=
  between least most (one isHexDigit)

/-- Groups of hexadecimal digits with `separator` between them, `count` of them and one more. -/
def hexGroups (count least most : Nat) (separator : String) : Text.Pattern :=
  .seq (between count count (.seq (hexDigits least most) (literally separator)))
    (hexDigits least most)

/-- An address of four numbers. -/
def dottedAddress : Text.Pattern :=
  let number := between 1 3 (one Char.isDigit)
  marked (.seq (between 3 3 (.seq number (literally "."))) number)

/-- An address of up to eight hexadecimal groups. -/
def colonAddress : Text.Pattern :=
  let colons := .seq (literally ":") (optional (literally ":"))
  marked (.seq (between 1 7 (.seq (hexDigits 1 4) colons)) (hexDigits 1 4))

/-- A device address of `count` bytes and one more, or in groups of two. -/
def deviceAddress (count : Nat) : Text.Pattern :=
  marked
    (any (hexGroups count 1 2 "-") [hexGroups count 1 2 ":", hexGroups (count / 2) 4 4 "."])

/-- An identifier of 32 hexadecimal digits. -/
def identifier : Text.Pattern :=
  marked
    (all
      [hexDigits 8 8, literally "-", hexDigits 4 4, literally "-", hexDigits 4 4, literally "-",
       hexDigits 4 4, literally "-", hexDigits 12 12])

/-- The name before an opening parenthesis. -/
def call : Text.Pattern :=
  .seq (marked (.repeated (one fun c => isWordChar c || c == '.') 0 none true)) (literally "(")

/-- A word that stands for itself. -/
def constant (word : String) : Text.Pattern :=
  all [.wordEdge true, marked (literally word), .wordEdge true]

/-- The exponent of a number. -/
def exponent (lazily : Bool) : Text.Pattern :=
  optional
    (all [literally "e", optional (oneOf "-+"), .repeated (one isDecimalDigit) 1 none lazily])

/-- A number without a sign. -/
def unsigned (lazily : Bool) : Text.Pattern :=
  all [digits 1, optional (literally "."), digits 0, exponent lazily]

/-- A number with an imaginary part. -/
def complexNumber : Text.Pattern :=
  marked
    (all
      [.notAfter isWordChar, optional (literally "-"), unsigned true,
       optional (.seq (oneOf "-+") (unsigned false)), literally "j"])

/-- A number. -/
def number : Text.Pattern :=
  marked
    (.either
      (all
        [.notAfter isWordChar, optional (literally "-"), unsigned true, .wordEdge true])
      (.seq (literally "0x") (atLeast 0 (one isHexDigit))))

/-- A path, and the name of a file at its end. -/
def path : Text.Pattern :=
  all
    [marked
      (all
        [.wordEdge false, atLeast 0 (.seq (literally "/") (atLeast 1 (one isPathChar))),
         literally "/"]),
     optional (marked (atLeast 0 (one isPathChar)))]

/-- A text between quotes. -/
def quoted (quote : String) : Text.Pattern :=
  all
    [optional (literally "b"), literally quote, .repeated (one (· != '\n')) 0 none true,
     .notAfter (· == '\\'), literally quote]

/-- A quotation. -/
def quotation : Text.Pattern :=
  .seq (.notAfter fun c => c == '\\' || isWordChar c)
    (marked (any (quoted "'''") [quoted "'", quoted "\"\"\"", quoted "\""]))

/-- An address with a scheme. -/
def address : Text.Pattern :=
  marked
    (all
      [any (literally "file") (["https", "http", "ws", "wss"].map literally), literally "://",
       atLeast 0 (one isAddressChar)])

/-- The patterns, each of which is looked for in the whole text. -/
def patterns : List Text.Pattern :=
  [tag, assignment, bracket,
   any dottedAddress
     [colonAddress, deviceAddress 7, deviceAddress 5, identifier, call, constant "True",
      constant "False", constant "None", marked (literally "..."), complexNumber, number, path,
      quotation, address]]

end Highlight

/-- A text with its values highlighted. -/
def StyledText.highlighted (t : StyledText) : StyledText :=
  let marks := Highlight.patterns.flatMap (·.marks t.chars)
  let spans := (marks.filter fun (start, stop) => start < stop).map fun (start, stop) =>
    { start, stop : Span }
  { t with spans := spans ++ t.spans }

end LineLang.Console
