import FieldSearch.Number.Value
import Mathlib.Data.Rat.Lemmas
import Mathlib.Logic.Function.Basic

/-!
# Values of integers

Integers of one value are the same integer.
-/

namespace FieldSearch.NumericValue

/-- Different integers have different values. -/
theorem ofInt_injective : Function.Injective ofInt := by
  intro first second same
  have rationals := congrArg Dyadic.toRat (NumericValue.dyadic.inj same)
  rw [Dyadic.toRat_ofIntWithPrec_eq_mul_two_pow, Dyadic.toRat_ofIntWithPrec_eq_mul_two_pow,
    Int.neg_zero, zpow_zero, mul_one, mul_one] at rationals
  exact Rat.intCast_injective rationals

end FieldSearch.NumericValue
