/-! # Doubles

A finite binary64 number is a sign, a significand below `2 ^ 53` and a binary exponent, in the one
normalised form that the format has: the significand is at least `2 ^ 52` unless the exponent is
the least one. Zero has a sign. All arithmetic on the way in and out is exact, over naturals. -/

namespace BindingPlan.Decimal

/-- The finite binary64 number `± significand * 2 ^ exponent`. -/
structure Double where
  negative : Bool
  significand : Nat
  exponent : Int
  significand_lt : significand < Nat.pow 2 53
  exponent_ge : -1074 ≤ exponent
  exponent_le : exponent ≤ 971
  normal : Nat.pow 2 52 ≤ significand ∨ exponent = -1074
  deriving DecidableEq

namespace Double

/-- The double with the given parts, if they are those of a finite double in normal form. -/
def ofParts? (negative : Bool) (significand : Nat) (exponent : Int) : Option Double :=
  if h : significand < Nat.pow 2 53 ∧ -1074 ≤ exponent ∧ exponent ≤ 971 ∧
      (Nat.pow 2 52 ≤ significand ∨ exponent = -1074) then
    some ⟨negative, significand, exponent, h.1, h.2.1, h.2.2.1, h.2.2.2⟩
  else none

/-- Zero with a sign. -/
def zero (negative : Bool) : Double :=
  ⟨negative, 0, -1074, by decide, by decide, by decide, Or.inr rfl⟩

/-- Whether the number is zero, of either sign. -/
def isZero (x : Double) : Bool :=
  x.significand == 0

/-- Equality of numbers: the two zeros are the same number. -/
def sameNumber (x y : Double) : Bool :=
  decide (x = y) || x.isZero && y.isZero

/-- The natural nearest to `num / den`; a tie goes to the even neighbour. -/
def roundToEven (num den : Nat) : Nat :=
  let quotient := num / den
  let twice := 2 * (num % den)
  if twice < den ∨ (twice = den ∧ quotient % 2 = 0) then quotient else quotient + 1

/-- `n * 2 ^ e` for a positive exponent, `n` for another one. -/
def scale (n : Nat) (e : Int) : Nat :=
  n * Nat.pow 2 e.toNat

/-- The binary exponent with which `num / den` has a significand of fifty-three bits, or the least
exponent of the format for a number too small for that. -/
def exponentFor (num den : Nat) : Int :=
  let k : Int := num.log2 - den.log2
  let full := if scale num (-k) < scale den k then k - 53 else k - 52
  max full (-1074)

/-- The double nearest to `num / den`, a tie going to the even significand; none if the quotient is
out of range. -/
def ofRatio? (negative : Bool) (num den : Nat) : Option Double :=
  let e := exponentFor num den
  let m := roundToEven (scale num (-e)) (scale den e)
  if m = Nat.pow 2 53 then ofParts? negative (Nat.pow 2 52) (e + 1) else ofParts? negative m e

/-- The double nearest to `digits * 10 ^ exponent`; none if that number is too large. The two
guards keep the powers small: beyond them the answer is known without computing. -/
def ofDecimal? (negative : Bool) (digits : Nat) (exponent : Int) : Option Double :=
  let size : Int := (Nat.toDigits 10 digits).length + exponent
  if digits = 0 ∨ size < -330 then some (zero negative)
  else if 310 < size then none
  else ofRatio? negative (digits * Nat.pow 10 exponent.toNat) (Nat.pow 10 (-exponent).toNat)

/-- The double nearest to an integer; none if it is too large. -/
def ofInt? (n : Int) : Option Double :=
  ofDecimal? (decide (n < 0)) n.natAbs 0

end Double

end BindingPlan.Decimal
