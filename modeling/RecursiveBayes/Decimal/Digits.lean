/-
This file finds the digits of an exact value. A decimal is an integer times a
power of ten, and a value has a leading place: the power of ten of its first
digit. With a fixed number of digits the value is rounded to the nearest decimal
and a tie goes to the even digit. The fewest digits that identify the value are
found by trying one digit, two digits and so on: on each grid the two neighbours
of the value are tested against the interval of reals that round to the value,
the nearer one wins, and a tie goes to the larger.
-/

import RecursiveBayes.Decimal.Binary

namespace RecursiveBayes.Decimal

/-- The number `digits * 10 ^ exponent`. -/
structure Numeral where
  digits : Nat
  exponent : Int
  deriving DecidableEq

/-! ### The leading place -/

/-- The number of decimal digits of a natural number; zero has one. -/
def digitCount (number : Nat) : Nat :=
  (Nat.toDigits 10 number).length

/-- The power of ten of the first digit of a positive quotient. -/
def leadingPlace (numerator denominator : Nat) : Int :=
  if denominator ≤ numerator then
    (digitCount (numerator / denominator) : Int) - 1
  else
    let roundedUp := (denominator + numerator - 1) / numerator
    Int.neg (digitCount (roundedUp - 1))

/-- The place grows by one at each power of ten. -/
example : leadingPlace 999 1 = 2 ∧ leadingPlace 1000 1 = 3 := by decide +kernel

/-- Below one the place is negative, and a power of ten starts its own. -/
example : leadingPlace 1 10 = -1 ∧ leadingPlace 99 1000 = -2 ∧ leadingPlace 1 3 = -1 := by
  decide +kernel

/-! ### A fixed number of digits -/

/-- A quotient rounded to the nearest integer; halfway between two, to the even one. -/
def roundHalfEven (numerator denominator : Nat) : Nat :=
  let quotient := numerator / denominator
  match compare (2 * (numerator % denominator)) denominator with
  | .lt => quotient
  | .gt => quotient + 1
  | .eq => if quotient % 2 = 0 then quotient else quotient + 1

/-- The value on the grid of powers of ten with the given exponent, rounded. -/
def Dyad.roundTo (value : Dyad) (exponent : Int) : Nat :=
  roundHalfEven (value.numerator * Nat.pow 10 (-exponent).toNat)
    (value.denominator * Nat.pow 10 exponent.toNat)

/-- The decimal nearest to a positive value among those with the given number of digits behind
the first. Rounding up to the next power of ten keeps the number of digits. -/
def Dyad.fixed (value : Dyad) (places : Nat) : Numeral :=
  let exponent := leadingPlace value.numerator value.denominator - places
  let digits := value.roundTo exponent
  if digits = Nat.pow 10 (places + 1) then ⟨Nat.pow 10 places, exponent + 1⟩ else ⟨digits, exponent⟩

/-! ### The fewest digits -/

/-- A decimal lies in the interval of reals that round to the value. The ends of the interval
are halfway to the neighbouring values, and belong to it when the significand is even. -/
def Dyad.roundsFrom (value : Dyad) (decimal : Numeral) : Bool :=
  let low := 4 * value.significand - if value.narrowBelow then 1 else 2
  let high := 4 * value.significand + 2
  let closed := value.significand % 2 = 0
  let above := compareScaled decimal.digits decimal.exponent low (value.exponent - 2)
  let below := compareScaled decimal.digits decimal.exponent high (value.exponent - 2)
  (above = .gt || closed && above = .eq) && (below = .lt || closed && below = .eq)

/-- The decimal on the grid `10 ^ exponent` that stands for the value, if a neighbour of the
value on that grid rounds to it. -/
def Dyad.onGrid? (value : Dyad) (exponent : Int) : Option Numeral :=
  let numerator := value.numerator * Nat.pow 10 (-exponent).toNat
  let denominator := value.denominator * Nat.pow 10 exponent.toNat
  let floor : Numeral := ⟨numerator / denominator, exponent⟩
  let ceiling : Numeral := ⟨numerator / denominator + 1, exponent⟩
  match value.roundsFrom floor, value.roundsFrom ceiling with
  | true, true =>
    if 2 * (numerator % denominator) < denominator then some floor else some ceiling
  | true, false => some floor
  | false, true => some ceiling
  | false, false => none

/-- The value itself as a decimal: a negative power of two is a power of five over a power of
ten. -/
def Dyad.exact (value : Dyad) : Numeral :=
  ⟨value.numerator * Nat.pow 5 (-value.exponent).toNat, -((-value.exponent).toNat : Int)⟩

/-- The shortest decimal that rounds to a positive value: the coarsest of the first seventeen
grids with a hit. -/
def Dyad.shortest (value : Dyad) : Numeral :=
  let place := leadingPlace value.numerator value.denominator
  ((List.range 17).findSome? fun (further : Nat) => value.onGrid? (place - further)).getD
    value.exact

end RecursiveBayes.Decimal
