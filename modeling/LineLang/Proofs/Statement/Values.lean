import LineLang.Argument
import Mathlib.Data.Nat.Digits.Lemmas

/-!
# Which tokens are values

A value is a decimal number with a sign or without one, from 1 to 2147483647. `readValue` accepts
exactly these (`readValue_accepts_naturals`). Before it reads the digits it refuses what is too long
without leading signs and zeros. That never refuses a value, as a number without leading zeros and
with more than ten digits is larger than every value (`isOverlong_of_isValue`).
-/

namespace LineLang

variable {token : String} {cs digits : List Char} {value : Int} {n : Nat}

/-! ## Decimal numbers -/

/-- The characters are digits, at least one. -/
def IsNumeral (digits : List Char) : Prop :=
  digits ≠ [] ∧ ∀ c ∈ digits, '0' ≤ c ∧ c ≤ '9'

/-- The number that digits stand for, the first of which has the greatest weight. -/
def decimalValue (digits : List Char) : Nat :=
  Nat.ofDigits 10 (digits.map fun c => c.toNat - '0'.toNat).reverse

/-- The characters are a number, after a sign or without one. -/
inductive Denotes : List Char → Int → Prop
  | plain {digits : List Char} (numeral : IsNumeral digits) : Denotes digits (decimalValue digits)
  | plus {digits : List Char} (numeral : IsNumeral digits) :
      Denotes ('+' :: digits) (decimalValue digits)
  | minus {digits : List Char} (numeral : IsNumeral digits) :
      Denotes ('-' :: digits) (-decimalValue digits)

/-- The token is a value. -/
def IsValue (token : String) (value : Int) : Prop :=
  Denotes token.toList value ∧ 1 ≤ value ∧ value ≤ 2147483647

theorem isDigit_iff (c : Char) : c.isDigit = true ↔ '0' ≤ c ∧ c ≤ '9' := by
  constructor
  · intro digit
    obtain ⟨low, high⟩ := Bool.and_eq_true_iff.1 digit
    exact ⟨of_decide_eq_true low, of_decide_eq_true high⟩
  · rintro ⟨low, high⟩
    exact Bool.and_eq_true_iff.2 ⟨decide_eq_true low, decide_eq_true high⟩

theorem decimalValue_eq_foldl (digits : List Char) :
    decimalValue digits = digits.foldl (fun n c => 10 * n + (c.toNat - '0'.toNat)) 0 := by
  rw [decimalValue, Nat.ofDigits_eq_foldr, List.foldr_reverse, List.foldl_map]
  congr 1
  funext n c
  exact Nat.add_comm _ _

theorem natural?_eq_some_iff : natural? cs = some n ↔ IsNumeral cs ∧ n = decimalValue cs := by
  have numeral_iff : (!cs.isEmpty && cs.all Char.isDigit) = true ↔ IsNumeral cs := by
    simp only [Bool.and_eq_true, Bool.not_eq_true', List.isEmpty_eq_false_iff, List.all_eq_true,
      isDigit_iff, IsNumeral]
  rw [natural?, ← decimalValue_eq_foldl, ← numeral_iff]
  split
  · next numeral => simp only [Option.some.injEq, numeral, true_and, eq_comm]
  · next other => simp only [reduceCtorEq, other, false_and]

theorem not_isNumeral_cons {c : Char} (sign : ¬ ('0' ≤ c ∧ c ≤ '9')) : ¬ IsNumeral (c :: cs) :=
  fun numeral => sign (numeral.2 c List.mem_cons_self)

/-- A number with its sign, which `change` takes into account. -/
theorem signed_eq_some_iff (change : Int → Int) :
    (Option.map change do let n ← natural? cs; pure (n : Int)) = some value ↔
      IsNumeral cs ∧ change (decimalValue cs) = value := by
  simp only [Option.map_eq_some_iff, Option.bind_eq_bind, Option.bind_eq_some_iff, Option.pure_def,
    Option.some.injEq, natural?_eq_some_iff]
  constructor
  · rintro ⟨_, ⟨_, ⟨numeral, rfl⟩, rfl⟩, same⟩
    exact ⟨numeral, same⟩
  · rintro ⟨numeral, same⟩
    exact ⟨_, ⟨_, ⟨numeral, rfl⟩, rfl⟩, same⟩

theorem integer?_eq_some_iff : integer? cs = some value ↔ Denotes cs value := by
  unfold integer?
  split
  · next cs =>
    refine (signed_eq_some_iff _).trans ⟨?_, fun denotes => ?_⟩
    · rintro ⟨numeral, rfl⟩
      exact .plus numeral
    · cases denotes with
      | plain numeral => exact absurd numeral (not_isNumeral_cons (by decide))
      | plus numeral => exact ⟨numeral, rfl⟩
  · next cs =>
    refine (signed_eq_some_iff _).trans ⟨?_, fun denotes => ?_⟩
    · rintro ⟨numeral, rfl⟩
      exact .minus numeral
    · cases denotes with
      | plain numeral => exact absurd numeral (not_isNumeral_cons (by decide))
      | minus numeral => exact ⟨numeral, rfl⟩
  · next unsigned noPlus noMinus =>
    refine (signed_eq_some_iff _).trans ⟨?_, fun denotes => ?_⟩
    · rintro ⟨numeral, rfl⟩
      exact .plain numeral
    · cases denotes with
      | plain numeral => exact ⟨numeral, rfl⟩
      | plus numeral => exact absurd rfl (noPlus _)
      | minus numeral => exact absurd rfl (noMinus _)

/-! ## Long tokens -/

/-- Digits in front do not make a number smaller. -/
theorem decimalValue_le_append (front digits : List Char) :
    decimalValue digits ≤ decimalValue (front ++ digits) := by
  rw [decimalValue, decimalValue, List.map_append, List.reverse_append, Nat.ofDigits_append]
  exact Nat.le_add_right _ _

/-- A number whose first digit is not zero has at most ten digits, if it is not larger than the
largest value. -/
theorem length_le_of_decimalValue {c : Char} (nonzero : '0'.toNat < c.toNat)
    (small : decimalValue (c :: digits) ≤ 2147483647) : (c :: digits).length ≤ 10 := by
  let weights := ((c :: digits).map fun c => c.toNat - '0'.toNat).reverse
  have leading : weights.getLast (by simp [weights]) ≠ 0 := by
    simp only [weights, List.getLast_reverse, List.head_map, List.head_cons]
    omega
  have bound : 10 ^ weights.length ≤ 10 * decimalValue (c :: digits) :=
    Nat.pow_length_le_mul_ofDigits _ leading
  have count : weights.length = (c :: digits).length := by simp [weights]
  rw [← count]
  by_contra many
  have power : 10 ^ 11 ≤ 10 ^ weights.length := Nat.pow_le_pow_right (by decide) (by omega)
  omega

/-- The characters that may stand before the first digit that counts. -/
def isPadding (c : Char) : Bool :=
  c == '+' || c == '-' || c == '0'

theorem isOverlong_eq (token : String) :
    isOverlong token = decide (10 < (token.toList.dropWhile isPadding).length) :=
  rfl

/-- Without its leading zeros, a number that is not larger than the largest value has at most ten
digits. -/
theorem length_dropWhile_le (numeral : IsNumeral digits)
    (small : decimalValue digits ≤ 2147483647) : (digits.dropWhile isPadding).length ≤ 10 := by
  cases rest : digits.dropWhile isPadding with
  | nil => exact Nat.zero_le _
  | cons c cs =>
    have split : digits.takeWhile isPadding ++ c :: cs = digits := by
      rw [← rest, List.takeWhile_append_dropWhile]
    -- The first character that counts is a digit, so it is no sign, and it is not zero.
    have low : '0'.toNat ≤ c.toNat :=
      (numeral.2 c (split ▸ List.mem_append_right _ List.mem_cons_self)).1
    have other : c ≠ '0' := by
      rintro rfl
      have counts := List.head_dropWhile_not isPadding (rest ▸ List.cons_ne_nil '0' cs)
      simp only [rest, List.head_cons] at counts
      exact absurd counts (by decide)
    have nonzero : '0'.toNat < c.toNat :=
      Nat.lt_of_le_of_ne low fun same => other (Char.toNat_inj.1 same.symm)
    refine length_le_of_decimalValue nonzero (Nat.le_trans ?_ small)
    exact split ▸ decimalValue_le_append _ _

/-- A value is not too long, however many zeros stand before it. -/
theorem isOverlong_of_isValue (h : IsValue token value) : isOverlong token = false := by
  obtain ⟨denotes, positive, small⟩ := h
  rw [isOverlong_eq, decide_eq_false_iff_not, Nat.not_lt]
  generalize token.toList = cs at denotes
  cases denotes with
  | plain numeral => exact length_dropWhile_le numeral (Int.ofNat_le.1 small)
  | plus numeral =>
    rw [List.dropWhile_cons_of_pos rfl]
    exact length_dropWhile_le numeral (Int.ofNat_le.1 small)
  | minus numeral => omega

/-! ## Reading values -/

theorem readValue_eq_ok_iff : readValue (some token) = .ok value ↔ IsValue token value := by
  constructor
  · intro read
    rw [readValue] at read
    split at read
    · cases read
    · split at read
      · next v number =>
        split at read
        · next bounds =>
          cases read
          exact ⟨integer?_eq_some_iff.1 number, bounds⟩
        · cases read
      · cases read
  · intro h
    have ⟨denotes, bounds⟩ := h
    rw [readValue, isOverlong_of_isValue h, integer?_eq_some_iff.2 denotes]
    exact if_pos bounds

theorem eq_invalidValue_of_readValue {token? : Option String} {f : Fault}
    (failed : readValue token? = .error f) : f = .invalidValue := by
  unfold readValue at failed
  grind

/-- A token has no more digits than characters. -/
theorem convertValue_of_length_le (short : token.length ≤ maxDigits) :
    convertValue (some token) = (readValue (some token)).mapError .fault := by
  have few : (digitCount? token).filter (maxDigits < ·) = none := by
    refine Option.filter_eq_none_iff.2 fun count counted => ?_
    have digits : (token.toList.filter Char.isDigit).length = count := by
      unfold digitCount? at counted
      split at counted
      · cases counted
      · obtain ⟨_, -, same⟩ := Option.map_eq_some_iff.1 counted
        exact same
    have fewer := List.length_filter_le Char.isDigit token.toList
    rw [digits, String.length_toList] at fewer
    simpa using Nat.le_trans fewer short
  rw [convertValue, Option.bind_some, few]

/-- Reading a token succeeds with exactly the numbers from 1 to 2147483647 that are written as an
optional sign and decimal digits, and what is no such number is faulty. No such number is refused
for its length. Statements read tokens of up to `maxDigits` characters in this way. -/
theorem readValue_accepts_naturals (token? : Option String) :
    (∀ value, readValue token? = .ok value ↔
      ∃ token, token? = some token ∧ IsValue token value) ∧
    (∀ f, readValue token? = .error f ↔
      f = .invalidValue ∧ ∀ token value, token? = some token → ¬ IsValue token value) ∧
    (∀ token value, token? = some token → IsValue token value → isOverlong token = false) ∧
    (∀ token, token? = some token → token.length ≤ maxDigits →
      convertValue token? = (readValue token?).mapError .fault) := by
  have accepted : ∀ value, readValue token? = .ok value ↔
      ∃ token, token? = some token ∧ IsValue token value := by
    intro value
    cases token? with
    | none => exact ⟨nofun, nofun⟩
    | some token =>
      rw [readValue_eq_ok_iff]
      constructor
      · exact fun h => ⟨token, rfl, h⟩
      · rintro ⟨_, same, h⟩
        cases same
        exact h
  refine ⟨accepted, fun f => ⟨fun failed => ?_, ?_⟩, fun _ _ _ => isOverlong_of_isValue, ?_⟩
  · refine ⟨eq_invalidValue_of_readValue failed, fun token value same h => ?_⟩
    rw [(accepted value).2 ⟨token, same, h⟩] at failed
    cases failed
  · rintro ⟨rfl, refused⟩
    cases read : readValue token? with
    | error f => rw [eq_invalidValue_of_readValue read]
    | ok value =>
      obtain ⟨token, same, h⟩ := (accepted value).1 read
      exact absurd h (refused token value same)
  · rintro token rfl short
    exact convertValue_of_length_le short

/-- Zeros and a sign before a value do not count, but a sign behind a zero does. -/
example :
    readValue (some "+0000000000002147483647") = .ok 2147483647 ∧
    readValue (some "2147483648") = .error .invalidValue ∧
    readValue (some "-7") = .error .invalidValue ∧
    readValue (some "0+7") = .error .invalidValue := by
  decide +kernel

end LineLang
