/-!
# Letters written large and small

Keywords consist of ASCII letters and are recognised in either case. `capital` and `small` give the
forms of a character exactly where they are written in ASCII. A character whose form is written
otherwise can be part of no keyword and stands for itself.
-/

namespace LineLang.Text

/-- The characters beyond ASCII whose capital form is written in ASCII. -/
def capitalForms : List (Char × String) :=
  [('ß', "SS"), ('ı', "I"), ('ſ', "S"), ('ﬀ', "FF"), ('ﬁ', "FI"), ('ﬂ', "FL"), ('ﬃ', "FFI"),
   ('ﬄ', "FFL"), ('ﬅ', "ST"), ('ﬆ', "ST")]

/-- The capital form of a character. -/
def capital (c : Char) : List Char :=
  match capitalForms.lookup c with
  | some form => form.toList
  | none => [c.toUpper]

/-- The small form of a character. The Kelvin sign is the one character beyond ASCII whose small
form is written in ASCII. -/
def small (c : Char) : Char :=
  if c.toNat = 0x212a then 'k' else c.toLower

/-- A text in capitals. -/
def capitals (s : String) : String :=
  String.ofList (s.toList.flatMap capital)

/-- A text in small letters. -/
def smalls (s : String) : String :=
  String.ofList (s.toList.map small)

end LineLang.Text
