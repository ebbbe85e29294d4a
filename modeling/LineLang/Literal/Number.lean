import LineLang.Argument

/-!
# Numbers in literals

An integer is written in base ten, two, eight or sixteen. A number with a point or an exponent is a
decimal, and a `j` at the end makes a number imaginary. Single underscores may stand between digits.
-/

namespace LineLang.Literal

/-- A number without a sign. -/
inductive Number
  | integer (n : Nat)
  | decimal
  | imaginary
  deriving DecidableEq, Repr

/-- Whether a character continues the word or number before it. -/
def isNameChar (c : Char) : Bool :=
  c.isAlphanum || c == '_' || 127 < c.toNat

/-! ## Digits -/

/-- The value of a hexadecimal digit. -/
def hexDigit? (c : Char) : Option Nat :=
  if c.isDigit then some (c.toNat - '0'.toNat)
  else if 'a' ≤ c.toLower ∧ c.toLower ≤ 'f' then some (c.toLower.toNat - 'a'.toNat + 10)
  else none

/-- The value of a digit in a base. -/
def digit? (base : Nat) (c : Char) : Option Nat :=
  (hexDigit? c).filter (· < base)

/-- The values of the digits that a text begins with, and the text after them. An underscore before
a digit is skipped. -/
def digits (base : Nat) : List Char → List Nat × List Char
  | [] => ([], [])
  | c :: rest =>
    match digit? base c with
    | some value =>
      let (values, after) := digits base rest
      (value :: values, after)
    | none =>
      if c = '_' ∧ rest.head?.any fun next => (digit? base next).isSome then digits base rest
      else ([], c :: rest)

/-- Decimal digits, the first of which has no underscore before it. -/
def decimalDigits (cs : List Char) : List Nat × List Char :=
  if cs.head?.any Char.isDigit then digits 10 cs else ([], cs)

/-- The number that digits write. -/
def numeral (base : Nat) (values : List Nat) : Nat :=
  values.foldl (fun n value => base * n + value) 0

/-! ## Integers -/

/-- The base that a letter after a zero stands for. -/
def base? (c : Char) : Option Nat :=
  [('x', 16), ('o', 8), ('b', 2)].lookup c.toLower

/-- The integer of decimal digits. It begins with a zero only if all of its digits are zeros, and
otherwise it has a limited number of digits. -/
def decimalInteger? (values : List Nat) : Option Nat :=
  if values.all (· == 0) then some 0
  else if values.head? = some 0 ∨ maxDigits < values.length then none
  else some (numeral 10 values)

/-! ## Numbers -/

/-- What follows a point and the digits after it, if there is one. -/
def afterFraction? : List Char → Option (List Char)
  | '.' :: rest => some (decimalDigits rest).2
  | _ => none

/-- What follows an exponent. -/
def afterExponent? (cs : List Char) : Option (List Char) :=
  let unsigned := match cs with
    | '+' :: rest | '-' :: rest => rest
    | _ => cs
  match decimalDigits unsigned with
  | ([], _) => none
  | (_, rest) => some rest

/-- Reads a number in base ten, or one that is no integer. -/
def readDecimal? (cs : List Char) : Option (Number × List Char) := do
  let (values, rest) := decimalDigits cs
  let (exact, rest) := match afterFraction? rest with
    | some rest => (false, rest)
    | none => (true, rest)
  let (exact, rest) ← match rest with
    | 'e' :: exponent | 'E' :: exponent => (afterExponent? exponent).map (false, ·)
    | _ => some (exact, rest)
  match rest with
  | 'j' :: rest | 'J' :: rest => return (.imaginary, rest)
  | _ =>
    if exact then
      let n ← decimalInteger? values
      return (.integer n, rest)
    else return (.decimal, rest)

/-- Reads an integer in another base, where `cs` follows the letter of the base. -/
def readBased? (base : Nat) (cs : List Char) : Option (Number × List Char) :=
  match digits base cs with
  | ([], _) => none
  | (values, rest) => some (.integer (numeral base values), rest)

/-- Reads the number that a text begins with. No word may follow it at once. -/
def readNumber? (cs : List Char) : Option (Number × List Char) := do
  let (n, rest) ← match cs with
    | '0' :: letter :: rest =>
      match base? letter with
      | some base => readBased? base rest
      | none => readDecimal? cs
    | _ => readDecimal? cs
  if rest.head?.any isNameChar then none else return (n, rest)

end LineLang.Literal
