/-!
# Binary64 numbers

A number of the binary64 format is kept by its value. A finite one is `mantissa * 2 ^ exponent`
with a sign of its own, so that zero has two; its mantissa has at most 53 bits, its exponent is at
least -1074, and the mantissa has all 53 bits unless the exponent is least. What is not a number has
a payload, by which several such values are told apart. Every ratio of natural numbers is rounded
to the nearest number of the format, a tie to the even mantissa, all in exact arithmetic.
-/

namespace FieldSearch

/-- A binary64 number, or a value of the format that is not a number. -/
inductive Binary64
  | nan (payload : Nat)
  | infinite (negative : Bool)
  | finite (negative : Bool) (mantissa : Nat) (exponent : Int)
deriving DecidableEq, Repr

namespace Binary64

/-- The least exponent, and that of zero. -/
def leastExponent : Int := -1074

/-- The greatest exponent of a finite number. -/
def greatestExponent : Int := 971

/-- The number zero with a sign. -/
def zero (negative : Bool) : Binary64 :=
  .finite negative 0 leastExponent

/-- The number one. -/
def one : Binary64 :=
  .finite false (Nat.pow 2 52) (-52)

/-- The quotient rounded to the nearest integer, a tie to the even one. -/
def roundQuotient (numerator denominator : Nat) : Nat :=
  let quotient := numerator / denominator
  let remainder := numerator % denominator
  if 2 * remainder < denominator then quotient
  else if denominator < 2 * remainder then quotient + 1
  else if quotient % 2 = 0 then quotient
  else quotient + 1

/-- Whether a positive ratio is at least `2 ^ exponent`. -/
def ratioReaches (numerator denominator : Nat) (exponent : Int) : Bool :=
  denominator * Nat.pow 2 exponent.toNat ≤ numerator * Nat.pow 2 (-exponent).toNat

/-- The exponent of the greatest power of two that does not exceed a positive ratio. -/
def ratioLog2 (numerator denominator : Nat) : Int :=
  let estimate : Int := numerator.log2 - denominator.log2
  if ratioReaches numerator denominator estimate then estimate else estimate - 1

/-- The nearest number to a ratio of natural numbers, infinite when that lies beyond the greatest
finite one. -/
def ofRatio (negative : Bool) (numerator denominator : Nat) : Binary64 :=
  if numerator = 0 then zero negative
  else
    let exponent := max (ratioLog2 numerator denominator - 52) leastExponent
    let mantissa :=
      roundQuotient (numerator * Nat.pow 2 (-exponent).toNat)
        (denominator * Nat.pow 2 exponent.toNat)
    let (mantissa, exponent) :=
      if mantissa = Nat.pow 2 53 then (Nat.pow 2 52, exponent + 1) else (mantissa, exponent)
    if greatestExponent < exponent then .infinite negative
    else .finite negative mantissa exponent

/-- The nearest number to `digits * 10 ^ exponent`. Exponents so large or so small that the answer
is infinite or zero whatever the digits are answered without computing the power. -/
def ofDecimal (negative : Bool) (digits : Nat) (exponent : Int) : Binary64 :=
  if digits = 0 then zero negative
  else if 310 ≤ exponent then .infinite negative
  else if exponent + ((digits.log2 + 1) / 3 : Nat) < -330 then zero negative
  else ofRatio negative (digits * Nat.pow 10 exponent.toNat) (Nat.pow 10 (-exponent).toNat)

/-- The nearest number to an integer, infinite when that lies beyond the greatest finite one. -/
def ofInt (n : Int) : Binary64 :=
  ofRatio (n < 0) n.natAbs 1

/-- Whether a number is neither infinite nor not a number. -/
def isFinite : Binary64 → Bool
  | .finite .. => true
  | _ => false

/-- The integer that a finite number equals, if it is one. -/
def toInt? : Binary64 → Option Int
  | .finite negative mantissa exponent =>
    let scale := Nat.pow 2 (-exponent).toNat
    if mantissa % scale = 0 then
      let magnitude : Int := (mantissa / scale * Nat.pow 2 exponent.toNat : Nat)
      some (if negative then -magnitude else magnitude)
    else none
  | _ => none

end Binary64

end FieldSearch
