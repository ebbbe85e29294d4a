import LineLang.Text.Blank
import LineLang.Text.CharacterNames

/-!
# Looking up the name of a character

Most names stand in a table and are found in capitals or small letters. The names of Korean
syllables are composed of the names of their letters, and those of Chinese characters end with their
code point; both are found in capitals only.
-/

namespace LineLang.Text

/-! ## Names that stand in the table -/

/-- How many words of the name before it a name repeats, if this is its first word. -/
def repeated? (word : String) : Option Nat :=
  word.toList.head?.bind fun c => if 'a' ≤ c ∧ c ≤ 'z' then some (c.toNat - 'a'.toNat) else none

/-- Whether `name` is one of the names that `entries` spells, where `previous` is the name before
them. -/
def isSpelled (name previous : List String) : (entries : List (List String)) → Bool
  | [] => false
  | entry :: rest =>
    let repeats := (entry.head?.bind repeated?).getD 0
    let first := (entry.take 1).map fun word => String.ofList (word.toList.drop 1)
    let current := previous.take repeats ++ first ++ entry.drop 1
    current == name || isSpelled name current rest

/-- Whether a table of names has a name. -/
def hasName (table : String) (name : List String) : Bool :=
  isSpelled name [] ((words table).splitBy fun _ word => (repeated? word).isNone)

/-! ## Names that follow a rule -/

/-- The first letters of Korean syllables. -/
def firstLetters : List String :=
  ["G", "GG", "N", "D", "DD", "R", "M", "B", "BB", "S", "SS", "", "J", "JJ", "C", "K", "T", "P",
   "H"]

/-- The vowels of Korean syllables. -/
def vowels : List String :=
  ["A", "AE", "YA", "YAE", "EO", "E", "YEO", "YE", "O", "WA", "WAE", "OE", "YO", "U", "WEO", "WE",
   "WI", "YU", "EU", "YI", "I"]

/-- The last letters of Korean syllables. -/
def lastLetters : List String :=
  ["", "G", "GG", "GS", "N", "NJ", "NH", "D", "L", "LG", "LM", "LB", "LS", "LT", "LP", "LH", "M",
   "B", "BS", "S", "SS", "NG", "J", "C", "K", "T", "P", "H"]

/-- What follows the longest of the letters that a text begins with. -/
def afterLetter? (letters : List String) (cs : List Char) : Option (List Char) :=
  letters.foldl (fun best letter =>
    match after? letter.toList cs with
    | some rest => if best.all (rest.length < ·.length) then some rest else best
    | none => best) none

/-- Whether a text is the name of a Korean syllable. -/
def isSyllable (cs : List Char) : Bool :=
  ((afterLetter? firstLetters cs).bind (afterLetter? vowels)).bind (afterLetter? lastLetters) ==
    some []

/-- The value of a hexadecimal digit in capitals. -/
def capitalHexDigit? (c : Char) : Option Nat :=
  if c.isDigit then some (c.toNat - '0'.toNat)
  else if 'A' ≤ c ∧ c ≤ 'F' then some (c.toNat - 'A'.toNat + 10)
  else none

/-- First and last code point of each run of Chinese characters that are named for their code
points. -/
def ideographRanges : List (Nat × Nat) :=
  [(0x3400, 0x4dbf), (0x4e00, 0x9fff), (0x20000, 0x2a6df), (0x2a700, 0x2b738), (0x2b740, 0x2b81d),
   (0x2b820, 0x2cea1), (0x2ceb0, 0x2ebe0), (0x30000, 0x3134a)]

/-- Whether a text is the code point of a Chinese character. -/
def isIdeograph (cs : List Char) : Bool :=
  match cs.mapM capitalHexDigit? with
  | some digits =>
    (digits.length == 4 || digits.length == 5) &&
      inRanges (digits.foldl (fun n digit => 16 * n + digit) 0) ideographRanges
  | none => false

/-! ## All names -/

/-- Whether a text is the name of a character. -/
def isCharacterName (cs : List Char) : Bool :=
  match after? "HANGUL SYLLABLE ".toList cs, after? "CJK UNIFIED IDEOGRAPH-".toList cs with
  | some syllable, _ => isSyllable syllable
  | none, some code => isIdeograph code
  | none, none =>
    hasName characterNames (((cs.map Char.toUpper).splitOnP (· == ' ')).map String.ofList)

end LineLang.Text
