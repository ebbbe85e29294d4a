import LineLang.Literal.Number
import LineLang.Text.CharacterName

/-!
# Quotations in literals

A quotation stands between single or double quotes, or between three of them, which may enclose line
ends. Letters before it say what it is: `b` makes it a sequence of bytes and `r` takes its
backslashes as they are.
-/

namespace LineLang.Literal

/-! ## Letters before a quotation -/

/-- What the letters before a quotation say. -/
structure QuotationKind where
  bytes : Bool := false
  raw : Bool := false
  deriving DecidableEq, Repr

/-- The kind of quotation that letters before it announce. -/
def QuotationKind.ofLetters? (letters : List Char) : Option QuotationKind :=
  match letters.map Char.toLower with
  | [] | ['u'] => some {}
  | ['r'] => some { raw := true }
  | ['b'] => some { bytes := true }
  | ['b', 'r'] | ['r', 'b'] => some { bytes := true, raw := true }
  | _ => none

/-- Whether a character is a quote. -/
def isQuote (c : Char) : Bool :=
  c == '"' || c == Char.ofNat 39

/-! ## The end of a quotation -/

/-- The text up to the closing quote, and the text after it. A backslash protects the character
after it, and only a protected line end may occur. -/
def shortQuotation? (quote : Char) : List Char → Option (List Char × List Char)
  | [] => none
  | c :: rest =>
    if c = quote then some ([], rest)
    else if c = '\n' then none
    else if c = '\\' then
      match rest with
      | [] => none
      | d :: rest => (shortQuotation? quote rest).map fun (text, after) => (c :: d :: text, after)
    else (shortQuotation? quote rest).map fun (text, after) => (c :: text, after)

/-- The text up to three closing quotes, and the text after them. -/
def longQuotation? (quote : Char) : List Char → Option (List Char × List Char)
  | [] => none
  | c :: rest =>
    if c = quote ∧ rest.take 2 = [quote, quote] then some ([], rest.drop 2)
    else if c = '\\' then
      match rest with
      | [] => none
      | d :: rest => (longQuotation? quote rest).map fun (text, after) => (c :: d :: text, after)
    else (longQuotation? quote rest).map fun (text, after) => (c :: text, after)

/-- The text of a quotation that begins with `quote`, and the text after it. -/
def quotedText? (quote : Char) (cs : List Char) : Option (List Char × List Char) :=
  if cs.take 2 = [quote, quote] then longQuotation? quote (cs.drop 2) else shortQuotation? quote cs

/-! ## Escapes -/

/-- The largest code point. -/
def maxCodePoint : Nat :=
  0x10ffff

/-- The number that the first `count` characters write in base sixteen. -/
def hexNumber? (count : Nat) (cs : List Char) : Option Nat :=
  if count ≤ cs.length then ((cs.take count).mapM hexDigit?).map (numeral 16) else none

/-- Whether a text begins with the name of a character in braces. -/
def startsWithName : List Char → Bool
  | '\x7b' :: rest => '\x7d' ∈ rest && Text.isCharacterName (rest.takeWhile (· != '\x7d'))
  | _ => false

/-- Whether a backslash can stand before a text. In a sequence of bytes only a number of two digits
can be malformed. -/
def isEscape (bytes : Bool) : List Char → Bool
  | 'x' :: rest => (hexNumber? 2 rest).isSome
  | 'u' :: rest => bytes || (hexNumber? 4 rest).isSome
  | 'U' :: rest => bytes || (hexNumber? 8 rest).any (· ≤ maxCodePoint)
  | 'N' :: rest => bytes || startsWithName rest
  | _ => true

/-- Whether all escapes in a text are well-formed. -/
def areEscapes (bytes : Bool) : List Char → Bool
  | [] => true
  | '\\' :: [] => true
  | '\\' :: c :: rest => isEscape bytes (c :: rest) && areEscapes bytes rest
  | _ :: rest => areEscapes bytes rest

/-- Whether a quotation of a kind can have a text. Bytes are written in ASCII. -/
def QuotationKind.admits (k : QuotationKind) (text : List Char) : Bool :=
  (!k.bytes || text.all (·.toNat < 128)) && (k.raw || areEscapes k.bytes text)

/-- Reads a quotation of a kind, which begins with a quote. -/
def readQuotation? (k : QuotationKind) : List Char → Option (List Char)
  | [] => none
  | quote :: rest =>
    match quotedText? quote rest with
    | some (text, after) => if k.admits text then some after else none
    | none => none

end LineLang.Literal
