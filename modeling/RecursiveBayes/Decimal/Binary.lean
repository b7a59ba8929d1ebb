/-
This file reads the bits of a 64-bit floating-point number as an exact value: a
sign and either no number, an infinity or an integer times a power of two. Every
text of a number is computed from that exact value in integer arithmetic, so no
rounding happens but the one that the text itself asks for.
-/

namespace RecursiveBayes.Decimal

/-- A finite value without its sign, `significand * 2 ^ exponent`. -/
structure Dyad where
  significand : Nat
  exponent : Int
  /-- The next smaller value is only half as far away as the next larger one. -/
  narrowBelow : Bool
  deriving DecidableEq

/-- What a floating-point number stands for, apart from its sign. -/
inductive Magnitude where
  | notANumber
  | infinite
  | finite (value : Dyad)
  deriving DecidableEq

/-- A floating-point number as a sign and a magnitude. Zero has a sign of its own. -/
structure Signed where
  negative : Bool
  magnitude : Magnitude
  deriving DecidableEq

/-- The magnitude with the given exponent field and fraction field. -/
def Magnitude.ofFields (exponentField fraction : Nat) : Magnitude :=
  if exponentField = 2047 then
    if fraction = 0 then .infinite else .notANumber
  else if exponentField = 0 then
    .finite ⟨fraction, -1074, false⟩
  else
    .finite ⟨Nat.pow 2 52 + fraction, (exponentField : Int) - 1075, fraction = 0 && 1 < exponentField⟩

/-- The number that a pattern of 64 bits stands for: one bit of sign, eleven bits of exponent
and fifty-two bits of fraction. -/
def Signed.ofBits (bits : UInt64) : Signed where
  negative := Nat.pow 2 63 ≤ bits.toNat
  magnitude := .ofFields (bits.toNat / Nat.pow 2 52 % Nat.pow 2 11) (bits.toNat % Nat.pow 2 52)

/-- The smallest positive number has the least significand at the least exponent. -/
example : Signed.ofBits 1 = ⟨false, .finite ⟨1, -1074, false⟩⟩ := by decide

/-- One is a power of two, so the gap below it is the narrow one. -/
example : Signed.ofBits 0x3FF0000000000000 = ⟨false, .finite ⟨2 ^ 52, -52, true⟩⟩ := by decide

/-! ### Exact comparison with decimals -/

/-- The value as a quotient of naturals: its numerator. -/
def Dyad.numerator (value : Dyad) : Nat :=
  value.significand * Nat.pow 2 value.exponent.toNat

/-- The value as a quotient of naturals: its denominator, a power of two. -/
def Dyad.denominator (value : Dyad) : Nat :=
  Nat.pow 2 (-value.exponent).toNat

/-- The comparison of `digits * 10 ^ ten` with `count * 2 ^ two`. -/
def compareScaled (digits : Nat) (ten : Int) (count : Nat) (two : Int) : Ordering :=
  compare (digits * Nat.pow 10 ten.toNat * Nat.pow 2 (-two).toNat)
    (count * Nat.pow 2 two.toNat * Nat.pow 10 (-ten).toNat)

end RecursiveBayes.Decimal
