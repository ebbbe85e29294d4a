import LineLang.Failure

/-!
# Arguments

Statements take names and values. `readName` and `readValue` read one argument each; an argument
that is not there is faulty as well. Statements read their values with `convertValue`, which differs
from `readValue` for numbers of more than `maxDigits` digits only.
-/

namespace LineLang

/-! ## Names -/

/-- Reads a name, which consists of English letters. -/
def readName : Option String → Except Fault String
  | some token =>
    if !token.toList.isEmpty && token.toList.all Char.isAlpha then .ok token
    else .error .invalidName
  | none => .error .invalidName

/-! ## Values -/

/-- The largest value that can be written. -/
def maxValue : Int :=
  2147483647

/-- The number of digits of the largest value. -/
def maxValueDigits : Nat :=
  10

/-- The number that decimal digits stand for. -/
def natural? (cs : List Char) : Option Nat :=
  if !cs.isEmpty && cs.all Char.isDigit then
    some (cs.foldl (fun n c => 10 * n + (c.toNat - '0'.toNat)) 0)
  else none

/-- The number that decimal digits stand for, after a sign or without one. -/
def integer? : List Char → Option Int
  | '+' :: cs => (natural? cs).map fun n => (n : Int)
  | '-' :: cs => (natural? cs).map fun n => -(n : Int)
  | cs => (natural? cs).map fun n => (n : Int)

/-- Whether a token is too long for a value, its leading signs and zeros aside. -/
def isOverlong (token : String) : Bool :=
  maxValueDigits <
    (token.toList.dropWhile fun c => c == '+' || c == '-' || c == '0').length

/-- Reads a value, which is positive and at most `maxValue`. A token that is too long is refused
before its digits are read. -/
def readValue : Option String → Except Fault Int
  | some token =>
    if isOverlong token then .error .invalidValue
    else match integer? token.toList with
      | some value => if 0 < value ∧ value ≤ maxValue then .ok value else .error .invalidValue
      | none => .error .invalidValue
  | none => .error .invalidValue

/-- The largest number of digits that is converted to a number, leading zeros included. -/
def maxDigits : Nat :=
  4300

/-- The number of digits of a token that is a number and not too long for a value. -/
def digitCount? (token : String) : Option Nat :=
  if isOverlong token then none
  else (integer? token.toList).map fun _ => (token.toList.filter Char.isDigit).length

/-- Reads a value as `readValue` does, unless it has more digits than are converted. -/
def convertValue (token? : Option String) : Except Failure Int :=
  match (token?.bind digitCount?).filter (maxDigits < ·) with
  | some count => .error (.crash (.tooManyDigits count))
  | none => (readValue token?).mapError .fault

end LineLang
