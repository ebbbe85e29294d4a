import LineLang.Text.Invisible

/-!
# Quoted text

A text is shown between quotes on one line. Apostrophes are used, unless the text holds an
apostrophe and no double quote. The backslash, the chosen quote and every character without a
visible form are escaped.
-/

namespace LineLang.Text

/-- A number in base sixteen, filled up with zeros to `width` digits. -/
def hexadecimal (width n : Nat) : List Char :=
  let digits := Nat.toDigits 16 n
  List.replicate (width - digits.length) '0' ++ digits

/-- The apostrophe. -/
def apostrophe : Char :=
  Char.ofNat 39

/-- How a character is written between two `quote` characters. -/
def escape (quote c : Char) : List Char :=
  if c = '\\' ∨ c = quote then ['\\', c]
  else if c = '\n' then ['\\', 'n']
  else if c = '\r' then ['\\', 'r']
  else if c = '\t' then ['\\', 't']
  else if isVisible c then [c]
  else if c.toNat < 0x100 then '\\' :: 'x' :: hexadecimal 2 c.toNat
  else if c.toNat < 0x10000 then '\\' :: 'u' :: hexadecimal 4 c.toNat
  else '\\' :: 'U' :: hexadecimal 8 c.toNat

/-- A text between quotes. -/
def quoted (s : String) : String :=
  let cs := s.toList
  let quote := if apostrophe ∈ cs ∧ '"' ∉ cs then '"' else apostrophe
  String.ofList (quote :: cs.flatMap (escape quote) ++ [quote])

end LineLang.Text
