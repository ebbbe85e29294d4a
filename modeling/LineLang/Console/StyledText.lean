/-!
# Styled text

A text with styles on parts of it. The styles are not shown, but a text that is laid out is cut
where a style begins or ends, and every style that remains on it must be readable.
-/

namespace LineLang.Console

/-- Controls that would move the cursor or ring: bell, backspace, vertical tab, form feed and
carriage return. -/
def isMotion (c : Char) : Bool :=
  c.toNat == 7 || c.toNat == 8 || c.toNat == 11 || c.toNat == 12 || c.toNat == 13

/-- Characters without the controls that would move the cursor. -/
def withoutMotion (cs : List Char) : List Char :=
  cs.filter (!isMotion ·)

/-! ## Spans -/

/-- The part of a text that a style is on, as the positions where it begins and ends. -/
structure Span where
  start : Nat
  stop : Nat
  /-- The style on the part can be read. -/
  readable : Bool := true
  deriving DecidableEq, Repr

namespace Span

/-- The span in a text that `n` characters were put before. -/
def shift (n : Nat) (s : Span) : Span :=
  { s with start := s.start + n, stop := s.stop + n }

/-- The part of a span that lies within `length` characters from `offset` on, unless it is empty. -/
def within? (offset length : Nat) (s : Span) : Option Span :=
  let start := s.start - offset
  let stop := Nat.min (s.stop - offset) length
  if start < stop then some { s with start, stop } else none

/-- The part of a span within the first `length` characters, if it begins there. -/
def before? (length : Nat) (s : Span) : Option Span :=
  if s.start < length then some { s with stop := Nat.min s.stop length } else none

end Span

/-! ## Texts -/

/-- A text with styles on parts of it. -/
structure StyledText where
  chars : List Char := []
  spans : List Span := []
  deriving DecidableEq, Repr

namespace StyledText

/-- Whether all styles can be read. -/
def isReadable (t : StyledText) : Bool :=
  t.spans.all Span.readable

/-- One text after another. -/
def append (t u : StyledText) : StyledText :=
  { chars := t.chars ++ u.chars, spans := t.spans ++ u.spans.map (Span.shift t.chars.length) }

/-- Texts one after another. -/
def concat (ts : List StyledText) : StyledText :=
  ts.foldl append {}

/-- The characters `chars` in place of those of a text. If they are fewer, what the styles were on
beyond them is gone. -/
def withChars (t : StyledText) (chars : List Char) : StyledText :=
  if chars.length < t.chars.length then
    { chars, spans := t.spans.filterMap (Span.before? chars.length) }
  else { t with chars }

/-- Pieces of the given lengths, with `gap` characters left out after each one. The characters
`chars` are those of the text from `offset` on. -/
def slices (t : StyledText) (gap : Nat) :
    (offset : Nat) → (chars : List Char) → (lengths : List Nat) → List StyledText
  | _, _, [] => []
  | offset, chars, length :: rest =>
    { chars := chars.take length, spans := t.spans.filterMap (Span.within? offset length) } ::
      t.slices gap (offset + length + gap) (chars.drop (length + gap)) rest

/-- A text cut into pieces of the given lengths, with `gap` characters left out between them. A text
that makes one piece stays as it is; otherwise empty spans are gone. -/
def divide (t : StyledText) (gap : Nat) (lengths : List Nat) : List StyledText :=
  if lengths.length ≤ 1 then [t] else t.slices gap 0 t.chars lengths

/-- A text cut wherever `isCut` holds of a position inside it; `position` is that of its first
character. -/
def cutAt (isCut : Nat → Bool) (position : Nat) : List Char → List (List Char)
  | [] => []
  | c :: rest =>
    match cutAt isCut (position + 1) rest with
    | [] => [[c]]
    | piece :: pieces =>
      if isCut (position + 1) then [c] :: piece :: pieces else (c :: piece) :: pieces

/-- The pieces of a text between the places where a style begins or ends. -/
def segments (t : StyledText) : List (List Char) :=
  cutAt (fun n => t.spans.any fun s => s.start == n || s.stop == n) 0 t.chars

end StyledText

end LineLang.Console
