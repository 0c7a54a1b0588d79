/-!
# Numbers of the binary64 format

A finite number is a significand times a power of two. Decimal numerals are rounded to the nearest
number of the format, a tie to the one with an even significand.
-/

namespace BuildAnalysis

/-- A number of the binary64 format. -/
inductive Binary64 where
  | nan
  | infinity (negative : Bool)
  /-- The number `significand * 2 ^ exponent`. -/
  | finite (negative : Bool) (significand : Nat) (exponent : Int)
  deriving DecidableEq, Repr, Inhabited

namespace Binary64

/-- The significands are smaller than two to this power. -/
def precision : Nat := 53

/-- The smallest exponent of a finite number. -/
def minExponent : Int := -1074

/-- The largest exponent of a finite number. -/
def maxExponent : Int := 971

/-- Whether a number is zero, of either sign. -/
def isZero : Binary64 → Bool
  | .finite _ significand _ => significand == 0
  | _ => false

/-- The quotient of two numbers rounded to the nearest integer, a tie to the even one. -/
def roundQuotient (num den : Nat) : Nat :=
  let quotient := num / den
  let remainder := num % den
  if 2 * remainder < den then quotient
  else if den < 2 * remainder then quotient + 1
  else quotient + quotient % 2

/-- `num / (den * 2 ^ exponent)` rounded to an integer. -/
def significandAt (num den : Nat) (exponent : Int) : Nat :=
  roundQuotient (num * Nat.pow 2 (-exponent).toNat) (den * Nat.pow 2 exponent.toNat)

/-- The exponent for which `num / den` has a significand of full precision, within the format. -/
def exponentOf (num den : Nat) : Int :=
  let guess : Int := Nat.log2 num - Nat.log2 den - (precision - 1 : Nat)
  let full :=
    num * Nat.pow 2 (-guess).toNat ≥ den * Nat.pow 2 guess.toNat * Nat.pow 2 (precision - 1)
  max minExponent (if full then guess else guess - 1)

/-- The number nearest to the positive quotient `num / den`. -/
def ofQuotient (negative : Bool) (num den : Nat) : Binary64 :=
  let exponent := exponentOf num den
  let significand := significandAt num den exponent
  if significand < Nat.pow 2 precision then
    if exponent ≤ maxExponent then .finite negative significand exponent else .infinity negative
  else if exponent + 1 ≤ maxExponent then .finite negative (significand / 2) (exponent + 1)
  else .infinity negative

/-- A decimal exponent beyond which every numeral is infinite, and below whose negation every
numeral is zero. -/
def decimalLimit : Int := 400

/-- The number nearest to `digits * 10 ^ exponent`. -/
def ofDecimal (negative : Bool) (digits : Nat) (exponent : Int) : Binary64 :=
  let magnitude : Int := (Nat.toDigits 10 digits).length + exponent
  if digits == 0 || magnitude < -decimalLimit then .finite negative 0 minExponent
  else if decimalLimit < magnitude then .infinity negative
  else ofQuotient negative (digits * Nat.pow 10 exponent.toNat) (Nat.pow 10 (-exponent).toNat)

/-- What a finite number is equal to. -/
def value? : Binary64 → Option Rat
  | .finite negative significand exponent =>
    let magnitude := (significand : Rat) * 2 ^ exponent
    some (if negative then -magnitude else magnitude)
  | _ => none

end Binary64

end BuildAnalysis
