import LineLang.Argument
import LineLang.Text.Blank
import LineLang.Text.Digits
import LineLang.Text.Lowercase

/-!
# Styles

A style is written in words: attributes, a colour, `on` and a colour for the ground, `not` and an
attribute, `link` and an address. Spellings of the same style have the same canonical text, and a
text that is no style stands for itself.
-/

namespace LineLang.Console

/-! ## Attributes and colours -/

/-- The attributes, in the order in which a style lists them. -/
def attributes : List String :=
  ["bold", "dim", "italic", "underline", "blink", "blink2", "reverse", "conceal", "strike",
   "underline2", "frame", "encircle", "overline"]

/-- Short names of attributes. -/
def shortAttributes : List (String × String) :=
  [("b", "bold"), ("d", "dim"), ("i", "italic"), ("u", "underline"), ("r", "reverse"),
   ("c", "conceal"), ("s", "strike"), ("uu", "underline2"), ("o", "overline")]

/-- The attribute of a name. -/
def attribute? (name : String) : Option String :=
  if name ∈ attributes then some name else shortAttributes.lookup name

/-- The names of colours, with blanks between them. -/
def colourNames : String := "
  default
  black red green yellow blue magenta cyan white bright_black bright_red bright_green
  bright_yellow bright_blue bright_magenta bright_cyan bright_white grey0 gray0 navy_blue
  dark_blue blue3 blue1 dark_green deep_sky_blue4 dodger_blue3 dodger_blue2 green4 spring_green4
  turquoise4 deep_sky_blue3 dodger_blue1 green3 spring_green3 dark_cyan light_sea_green
  deep_sky_blue2 deep_sky_blue1 spring_green2 cyan3 dark_turquoise turquoise2 green1 spring_green1
  medium_spring_green cyan2 cyan1 dark_red deep_pink4 purple4 purple3 blue_violet orange4 grey37
  gray37 medium_purple4 slate_blue3 royal_blue1 chartreuse4 dark_sea_green4 pale_turquoise4
  steel_blue steel_blue3 cornflower_blue chartreuse3 cadet_blue sky_blue3 steel_blue1 pale_green3
  sea_green3 aquamarine3 medium_turquoise chartreuse2 sea_green2 sea_green1 aquamarine1
  dark_slate_gray2 dark_magenta dark_violet purple light_pink4 plum4 medium_purple3 slate_blue1
  yellow4 wheat4 grey53 gray53 light_slate_grey light_slate_gray medium_purple light_slate_blue
  dark_olive_green3 dark_sea_green light_sky_blue3 sky_blue2 dark_sea_green3 dark_slate_gray3
  sky_blue1 chartreuse1 light_green pale_green1 dark_slate_gray1 red3 medium_violet_red magenta3
  dark_orange3 indian_red hot_pink3 medium_orchid3 medium_orchid medium_purple2 dark_goldenrod
  light_salmon3 rosy_brown grey63 gray63 medium_purple1 gold3 dark_khaki navajo_white3 grey69
  gray69 light_steel_blue3 light_steel_blue yellow3 dark_sea_green2 light_cyan3 light_sky_blue1
  green_yellow dark_olive_green2 dark_sea_green1 pale_turquoise1 deep_pink3 magenta2 hot_pink2
  orchid medium_orchid1 orange3 light_pink3 pink3 plum3 violet light_goldenrod3 tan misty_rose3
  thistle3 plum2 khaki3 light_goldenrod2 light_yellow3 grey84 gray84 light_steel_blue1 yellow2
  dark_olive_green1 honeydew2 light_cyan1 red1 deep_pink2 deep_pink1 magenta1 orange_red1
  indian_red1 hot_pink dark_orange salmon1 light_coral pale_violet_red1 orchid2 orchid1 orange1
  sandy_brown light_salmon1 light_pink1 pink1 plum1 gold1 navajo_white1 misty_rose1 thistle1
  yellow1 light_goldenrod1 khaki1 wheat1 cornsilk1 grey100 gray100 grey3 gray3 grey7 gray7 grey11
  gray11 grey15 gray15 grey19 gray19 grey23 gray23 grey27 gray27 grey30 gray30 grey35 gray35
  grey39 gray39 grey42 gray42 grey46 gray46 grey50 gray50 grey54 gray54 grey58 gray58 grey62
  gray62 grey66 gray66 grey70 gray70 grey74 gray74 grey78 gray78 grey82 gray82 grey85 gray85
  grey89 gray89 grey93 gray93
"

/-- What can be wrong with a style. -/
inductive StyleFault
  /-- A word is neither an attribute nor a colour. -/
  | unknownWord
  /-- A part of a colour is not written or has too many digits. -/
  | unreadableNumber
  deriving DecidableEq, Repr

/-- The text between `start` and a closing parenthesis. -/
def inParentheses? (start : String) (colour : List Char) : Option (List Char) :=
  match Text.after? (start.toList ++ ['(']) colour with
  | some rest => if rest.getLast? = some ')' then some rest.dropLast else none
  | none => none

/-- Whether a text is a colour given by six hexadecimal digits. -/
def isHexColour : List Char → Bool
  | '#' :: digits =>
    digits.length == 6 && digits.all fun c => c.isDigit || ('a' ≤ c && c ≤ 'f')
  | _ => false

/-- Whether a text is the number of a colour. -/
def isColourNumber (cs : List Char) : Bool :=
  !cs.isEmpty && cs.length ≤ 3 && cs.all Char.isDigit && Text.decimal cs ≤ 255

/-- Whether the digits of a part can be read as a number. -/
def isReadable (part : List Char) : Bool :=
  !part.isEmpty && part.length ≤ maxDigits

/-- Reads the three parts of a colour. -/
def readParts (parts : List (List Char)) : Except StyleFault Unit :=
  if parts.length ≠ 3 then .error .unknownWord
  else if !parts.all isReadable then .error .unreadableNumber
  else if parts.all (Text.decimal · ≤ 255) then .ok ()
  else .error .unknownWord

/-- Reads a colour, which is given by its name, its number or its parts. -/
def readColour (word : String) : Except StyleFault String :=
  let colour := Text.lowercase word
  let cs := colour.toList
  if colour ∈ Text.words colourNames || isHexColour cs then .ok colour
  else match inParentheses? "color" cs, inParentheses? "rgb" cs with
    | some number, _ => if isColourNumber number then .ok colour else .error .unknownWord
    | _, some parts =>
      if !parts.isEmpty && parts.all (fun c => Text.isDecimalDigit c || c == ',') then
        (readParts (parts.splitOnP (· == ','))).map fun _ => colour
      else .error .unknownWord
    | none, none => .error .unknownWord

/-! ## Styles -/

/-- What a style asks for; attributes that are not mentioned are left as they are. -/
structure Style where
  attribute? : String → Option Bool := fun _ => none
  colour : Option String := none
  ground : Option String := none
  link : Option String := none

namespace Style

/-- Asks for an attribute, or for its absence. -/
def withAttribute (s : Style) (name : String) (wanted : Bool) : Style :=
  { s with attribute? := fun other => if other = name then some wanted else s.attribute? other }

/-- Reads the words that are left. -/
def readWords (s : Style) : List String → Except StyleFault Style
  | [] => .ok s
  | word :: rest =>
    match Text.lowercase word, rest with
    | "on", ground :: rest => do
      let ground ← readColour ground
      readWords { s with ground := some ground } rest
    | "not", name :: rest =>
      match Console.attribute? name with
      | some name => readWords (s.withAttribute name false) rest
      | none => .error .unknownWord
    | "link", link :: rest => readWords { s with link := some link } rest
    | word, rest =>
      match Console.attribute? word with
      | some name => readWords (s.withAttribute name true) rest
      | none => do
        let colour ← readColour word
        readWords { s with colour := some colour } rest

/-- Reads a style. -/
def read (text : String) : Except StyleFault Style :=
  if Text.trim text = "none" then .ok {} else readWords {} (Text.words text)

/-- The canonical text of a style. -/
def text (s : Style) : String :=
  let named := attributes.filterMap fun name =>
    (s.attribute? name).map fun wanted => if wanted then name else "not " ++ name
  let ground := s.ground.toList.flatMap fun ground => ["on", ground]
  let link := s.link.toList.flatMap fun link => ["link", link]
  match named ++ s.colour.toList ++ ground ++ link with
  | [] => "none"
  | words => " ".intercalate words

/-- The canonical text of what may be a style. -/
def canonical (text : String) : Except StyleFault String :=
  match read text with
  | .ok style => .ok style.text
  | .error .unknownWord => .ok (Text.lowercase (Text.trim text))
  | .error .unreadableNumber => .error .unreadableNumber

end Style

end LineLang.Console
