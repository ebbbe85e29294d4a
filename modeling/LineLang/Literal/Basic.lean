import LineLang.Literal.Token

/-!
# Literals

A literal writes a constant value: a number, a quotation, `True`, `False`, `None`, three points, a
tuple, a set, or a dictionary. `isLiteral` says whether a text is one. The elements of sets and the
keys of dictionaries must be hashable, which sets and dictionaries are not. Reading descends a number
of steps for every value in brackets, and values that would need too many of them are refused.
-/

namespace LineLang.Literal

/-! ## Values -/

/-- What matters about a value. -/
inductive Value
  | number (n : Number) (signed : Bool)
  /-- The word `set`, which is no value until it is called. -/
  | setWord
  | other (hashable : Bool)
  deriving DecidableEq, Repr

/-- An integer from here on is too large for a decimal. -/
def decimalBound : Nat :=
  (1 <<< 1024) - (1 <<< 970)

/-- Whether a number can be the real part of a complex one. -/
def Number.isReal : Number → Bool
  | integer n => n < decimalBound
  | decimal => true
  | imaginary => false

namespace Value

/-- A value with a sign; only a number without one can have it. -/
def withSign? : Value → Option Value
  | number n false => some (number n true)
  | _ => none

/-- The sum or difference of a real and an imaginary number. -/
def complex? : Value → Value → Option Value
  | number n _, number .imaginary false => if n.isReal then some (other true) else none
  | _, _ => none

/-- The result of a call without arguments. -/
def called? : Value → Option Value
  | setWord => some (other false)
  | _ => none

/-- Whether a value is complete. -/
def isComplete : Value → Bool
  | setWord => false
  | _ => true

/-- Whether a value can be an element of a set. -/
def isHashable : Value → Bool
  | number _ _ => true
  | setWord => false
  | other hashable => hashable

/-- A tuple of values. -/
def tuple? (values : List Value) : Option Value :=
  if values.all isComplete then some (other (values.all isHashable)) else none

/-- A set of values. -/
def set? (values : List Value) : Option Value :=
  if values.all isHashable then some (other false) else none

/-- A dictionary of keys and values. -/
def dictionary? (entries : List (Value × Value)) : Option Value :=
  if entries.all fun (key, value) => key.isHashable && value.isComplete then some (other false)
  else none

end Value

/-! ## Depth -/

/-- How many steps the reader may descend. -/
def maxSteps : Nat :=
  6000

/-- The steps from the place where a value is looked for to its first token. -/
def valueSteps : Nat :=
  22

/-- Whether a value can be looked for after so many steps. -/
def hasRoom (steps : Nat) : Bool :=
  steps + valueSteps ≤ maxSteps

/-- The steps after which the first, the second and every later value in brackets is looked for. -/
structure Descent where
  first : Nat
  second : Nat
  later : Nat

namespace Descent

/-- Values that stand in no brackets. -/
def outermost : Descent :=
  ⟨3, 5, 5⟩

/-- Values in parentheses that are reached after so many steps. -/
def parentheses (steps : Nat) : Descent :=
  ⟨steps + 28, steps + 30, steps + 31⟩

/-- Values in braces that are reached after so many steps. -/
def braces (steps : Nat) : Descent :=
  ⟨steps + 29, steps + 30, steps + 30⟩

/-- The descent without its first value. -/
def tail (d : Descent) : Descent :=
  ⟨d.second, d.later, d.later⟩

end Descent

/-! ## Reading -/

/-- Whether a token is a quotation. -/
def Token.isQuotation : Token → Bool
  | quotation _ => true
  | _ => false

/-- What follows quotations that are written one after another. They are all of one kind. -/
def afterQuotations? (bytes : Bool) (tokens : List Token) : Option (List Token) :=
  if (tokens.takeWhile Token.isQuotation).all (· == .quotation bytes) then
    some (tokens.dropWhile Token.isQuotation)
  else none

mutual

/-- Reads a value after so many steps: a term, or the sum or difference of two terms. -/
def readValue? : (fuel steps : Nat) → List Token → Option (Value × List Token)
  | 0, _, _ => none
  | fuel + 1, steps, tokens =>
    if hasRoom steps then do
      let (left, rest) ← readTerm? fuel steps tokens
      match rest with
      | .mark '+' :: rest | .mark '-' :: rest =>
        let (right, rest) ← readTerm? fuel steps rest
        let sum ← left.complex? right
        return (sum, rest)
      | _ => return (left, rest)
    else none

/-- Reads a term, which may have a sign or be called. Between the parentheses of a call a value is
looked for. -/
def readTerm? : (fuel steps : Nat) → List Token → Option (Value × List Token)
  | 0, _, _ => none
  | fuel + 1, steps, .mark '+' :: rest | fuel + 1, steps, .mark '-' :: rest => do
    let (value, rest) ← readTerm? fuel (steps + 1) rest
    let value ← value.withSign?
    return (value, rest)
  | fuel + 1, steps, tokens => do
    let (value, rest) ← readAtom? fuel steps tokens
    match rest with
    | .mark '(' :: .mark ')' :: rest =>
      let value ← value.called?
      if hasRoom (steps + 24) then return (value, rest) else none
    | _ => if hasRoom steps then return (value, rest) else none

/-- Reads a single token or what brackets enclose. -/
def readAtom? : (fuel steps : Nat) → List Token → Option (Value × List Token)
  | 0, _, _ => none
  | fuel + 1, steps, tokens =>
    match tokens with
    | .number n :: rest => some (.number n false, rest)
    | .quotation bytes :: rest =>
      if hasRoom (steps + 2) then (afterQuotations? bytes rest).map (.other true, ·) else none
    | .constant :: rest => some (.other true, rest)
    | .setWord :: rest => some (.setWord, rest)
    | .mark '(' :: .mark ')' :: rest =>
      if hasRoom (Descent.parentheses steps).first then some (.other true, rest) else none
    | .mark '(' :: rest => readEnclosed? fuel (.parentheses steps) rest
    | .mark '\x7b' :: .mark '\x7d' :: rest =>
      if hasRoom (Descent.braces steps).first then some (.other false, rest) else none
    | .mark '\x7b' :: rest => do
      let descent := Descent.braces steps
      let (first, rest) ← readValue? fuel descent.first rest
      match rest with
      | .mark ':' :: rest =>
        let (entries, rest) ← readEntries? fuel descent first rest
        let value ← Value.dictionary? entries
        return (value, rest)
      | _ =>
        let (others, rest) ← readOthers? fuel descent.tail '\x7d' rest
        let value ← Value.set? (first :: others)
        return (value, rest)
    | _ => none

/-- Reads values up to a closing parenthesis. A value without a comma after it stands for itself,
and all others make a tuple. -/
def readEnclosed? : (fuel : Nat) → Descent → List Token → Option (Value × List Token)
  | 0, _, _ => none
  | fuel + 1, descent, tokens => do
    let (first, rest) ← readValue? fuel descent.first tokens
    match rest with
    | .mark ')' :: rest => return (first, rest)
    | _ =>
      let (others, rest) ← readOthers? fuel descent.tail ')' rest
      let value ← Value.tuple? (first :: others)
      return (value, rest)

/-- Reads the values after the first one, each with a comma before it, up to a closing mark. A comma
may stand after the last one. -/
def readOthers? : (fuel : Nat) → Descent → (close : Char) → List Token →
    Option (List Value × List Token)
  | 0, _, _, _ => none
  | fuel + 1, descent, close, tokens =>
    match tokens with
    | .mark c :: rest =>
      if c = close then some ([], rest)
      else if c ≠ ',' then none
      else if rest.head? = some (.mark close) then
        if hasRoom descent.first then some ([], rest.tail) else none
      else do
        let (value, rest) ← readValue? fuel descent.first rest
        let (values, rest) ← readOthers? fuel descent.tail close rest
        return (value :: values, rest)
    | _ => none

/-- Reads the entries of a dictionary from the value of `key` on, up to its closing brace. -/
def readEntries? : (fuel : Nat) → Descent → (key : Value) → List Token →
    Option (List (Value × Value) × List Token)
  | 0, _, _, _ => none
  | fuel + 1, descent, key, tokens => do
    let (value, rest) ← readValue? fuel descent.first tokens
    match rest with
    | .mark '\x7d' :: rest => return ([(key, value)], rest)
    | .mark ',' :: .mark '\x7d' :: rest =>
      if hasRoom descent.second then return ([(key, value)], rest) else none
    | .mark ',' :: rest =>
      let (next, rest) ← readValue? fuel descent.second rest
      match rest with
      | .mark ':' :: rest =>
        let (entries, rest) ← readEntries? fuel descent.tail next rest
        return ((key, value) :: entries, rest)
      | _ => none
    | _ => none

end

/-- Reads all tokens as if they stood in parentheses; there must be some. -/
def readAll? (tokens : List Token) : Option Value :=
  match readEnclosed? (6 * tokens.length + 6) .outermost (tokens ++ [.mark ')']) with
  | some (value, []) => if value.isComplete then some value else none
  | _ => none

/-- Whether a text is a literal. -/
def isLiteral (cs : List Char) : Bool :=
  ((tokens? cs).bind readAll?).isSome

end LineLang.Literal
