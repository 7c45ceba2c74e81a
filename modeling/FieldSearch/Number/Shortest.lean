import FieldSearch.Number.Binary64

/-!
# Shortest decimal texts

A binary64 number is written with the fewest significant digits that read back as the same number,
and with the nearest such digits to its exact value, a tie going to the even last digit. For each
grid of decimals, from the coarsest on which the number has a digit, the two neighbours of the
number are tested against the interval of reals that round to it; the interval contains its ends
when the mantissa is even. The digits stand in positional notation when the number is at least
`10 ^ -4` and below `10 ^ 16`, and otherwise in scientific notation.
-/

namespace FieldSearch.Binary64

/-- A positive number between the ends of the interval that rounds to it, all three in units of
`2 ^ scale`. -/
structure RoundingInterval where
  low : Nat
  value : Nat
  high : Nat
  closed : Bool
  scale : Int

/-- The rounding interval of a positive finite number. Below a power of two the numbers lie twice
as close together. -/
def roundingInterval (mantissa : Nat) (exponent : Int) : RoundingInterval where
  low :=
    if mantissa = Nat.pow 2 52 ∧ leastExponent < exponent then 4 * mantissa - 1
    else 4 * mantissa - 2
  value := 4 * mantissa
  high := 4 * mantissa + 2
  closed := mantissa % 2 = 0
  scale := exponent - 2

namespace RoundingInterval

/-- The factor that brings the interval to the common unit of its scale and the grid
`10 ^ power`. -/
def ownFactor (interval : RoundingInterval) (power : Int) : Nat :=
  Nat.pow 2 interval.scale.toNat * Nat.pow 10 (-power).toNat

/-- The factor that brings the grid `10 ^ power` to the common unit. -/
def gridFactor (interval : RoundingInterval) (power : Int) : Nat :=
  Nat.pow 2 (-interval.scale).toNat * Nat.pow 10 power.toNat

/-- The greatest multiple of `10 ^ power` that does not exceed the number. -/
def floorOn (interval : RoundingInterval) (power : Int) : Nat :=
  interval.value * interval.ownFactor power / interval.gridFactor power

/-- Whether `digits * 10 ^ power` rounds to the number. -/
def admits (interval : RoundingInterval) (power : Int) (digits : Nat) : Bool :=
  let low := interval.low * interval.ownFactor power
  let high := interval.high * interval.ownFactor power
  let point := digits * interval.gridFactor power
  if interval.closed then low ≤ point && point ≤ high else low < point && point < high

/-- Which of two neighbours on a grid is the nearer to the number; of two equally near ones, the
even one. -/
def nearer (interval : RoundingInterval) (power : Int) (below : Nat) : Nat :=
  let offset := interval.value * interval.ownFactor power - below * interval.gridFactor power
  let step := interval.gridFactor power
  if 2 * offset < step then below
  else if step < 2 * offset then below + 1
  else if below % 2 = 0 then below
  else below + 1

/-- The digits of the number on the coarsest grid, from `10 ^ power` down, that has them. A grid
coarser than the number has none. -/
def shortest (interval : RoundingInterval) : (grids : Nat) → (power : Int) → Nat × Int
  | 0, power => (interval.floorOn power, power)
  | grids + 1, power =>
    let below := interval.floorOn power
    if below = 0 then interval.shortest grids (power - 1)
    else
      match interval.admits power below, interval.admits power (below + 1) with
      | true, true => (interval.nearer power below, power)
      | true, false => (below, power)
      | false, true => (below + 1, power)
      | false, false => interval.shortest grids (power - 1)

end RoundingInterval

/-- The shortest digits of a positive finite number and the power of ten of the last of them. The
search begins above the number's leading digit, which lies at most two grids below the bound
computed from the binary logarithm, and needs at most 17 digits. -/
def shortestDecimal (mantissa : Nat) (exponent : Int) : Nat × Int :=
  (roundingInterval mantissa exponent).shortest 24
    ((exponent + mantissa.log2 + 1) * 30103 / 100000 + 1)

/-- The decimal digits of a natural number without the zeros at the end, and how many those
were. -/
def significantDigits (n : Nat) : List Char × Nat :=
  let digits := Nat.toDigits 10 n
  let trimmed := (digits.reverse.dropWhile (· == '0')).reverse
  (trimmed, digits.length - trimmed.length)

/-- Where positional notation begins and ends, by the exponent of the leading digit, and the least
number of digits of a written exponent. -/
structure DecimalLayout where
  firstPositional : Int
  firstScientific : Int
  exponentDigits : Nat

/-- Numbers are written positionally from `10 ^ -4` up to `10 ^ 16`, and written exponents have at
least two digits. -/
def decimalLayout : DecimalLayout :=
  ⟨-4, 16, 2⟩

/-- A natural number in decimal digits, filled up with zeros in front. -/
def padded (width n : Nat) : List Char :=
  let digits := Nat.toDigits 10 n
  List.replicate (width - digits.length) '0' ++ digits

/-- Digits laid out with their leading one at `10 ^ leading`. Positional notation always has a
digit on both sides of the point. -/
def DecimalLayout.write (layout : DecimalLayout) (digits : List Char) (leading : Int) : List Char :=
  if layout.firstPositional ≤ leading ∧ leading < layout.firstScientific then
    if leading < 0 then
      '0' :: '.' :: (List.replicate (-leading - 1).toNat '0' ++ digits)
    else
      let whole := leading.toNat + 1
      let fraction := digits.drop whole
      digits.take whole ++ List.replicate (whole - digits.length) '0' ++
        '.' :: (if fraction.isEmpty then ['0'] else fraction)
  else
    let fraction := digits.drop 1
    digits.take 1 ++ (if fraction.isEmpty then [] else '.' :: fraction) ++
      'e' :: (if leading < 0 then '-' else '+') :: padded layout.exponentDigits leading.natAbs

/-- The text of a number. -/
def text : Binary64 → String
  | .nan _ => "nan"
  | .infinite negative => if negative then "-inf" else "inf"
  | .finite negative mantissa exponent =>
    let magnitude :=
      if mantissa = 0 then ['0', '.', '0']
      else
        let (shortest, power) := shortestDecimal mantissa exponent
        let (digits, zeros) := significantDigits shortest
        decimalLayout.write digits (power + zeros + digits.length - 1)
    String.ofList (if negative then '-' :: magnitude else magnitude)

end FieldSearch.Binary64
