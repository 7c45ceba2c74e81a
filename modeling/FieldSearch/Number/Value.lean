import FieldSearch.Number.Binary64

/-!
# The values of numbers

Numbers of different kinds are compared by value: the two zeros of the binary64 format have one
value, and an integer has the value of the binary64 number that equals it. What is not a number is
the same as itself only, so that two payloads make two values.
-/

namespace FieldSearch

/-- The value of a number apart from its kind. -/
inductive NumericValue
  | undefined (payload : Nat)
  | infinite (negative : Bool)
  | dyadic (value : Dyadic)
deriving DecidableEq

/-- The value of an integer. -/
def NumericValue.ofInt (n : Int) : NumericValue :=
  .dyadic (Dyadic.ofIntWithPrec n 0)

/-- The value of a binary64 number: both zeros have the value zero. -/
def Binary64.value : Binary64 → NumericValue
  | .nan payload => .undefined payload
  | .infinite negative => .infinite negative
  | .finite negative mantissa exponent =>
    let signed : Int := if negative then -mantissa else mantissa
    .dyadic (Dyadic.ofIntWithPrec signed (-exponent))

/-- Whether a binary64 number is not less than an integer. -/
def Binary64.isAtLeast (x : Binary64) (n : Int) : Bool :=
  match x with
  | .nan _ => false
  | .infinite negative => !negative
  | .finite negative mantissa exponent =>
    let signed : Int := if negative then -mantissa else mantissa
    n * Int.pow 2 (-exponent).toNat ≤ signed * Int.pow 2 exponent.toNat

/-- Whether two numbers have the same value. -/
def Binary64.same (first second : Binary64) : Bool :=
  first.value = second.value

end FieldSearch
