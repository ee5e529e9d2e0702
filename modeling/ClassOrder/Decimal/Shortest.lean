/-!
# The fewest digits that name a binary fraction

A finite binary fraction stands for an interval of real numbers: those nearer to
it than to its neighbours, with the two ends included when its mantissa is even.
A decimal names the fraction when it lies in that interval. This module picks the
decimal with the fewest digits that does, and of those the nearest one, by exact
arithmetic on natural numbers.

The search walks the decimal grids from coarse to fine. Only the two neighbours
of the fraction on a grid can be nearest, so each grid costs two comparisons.
-/
namespace ClassOrder.Decimal

/-- A binary fraction without its sign: `mantissa * 2 ^ exponent`. The gap below
it is half the gap above it exactly when `narrowBelow` holds. -/
structure Binary where
  mantissa : Nat
  exponent : Int
  narrowBelow : Bool

/-- A power that clears a denominator: one when the exponent is negative. -/
def power (base : Nat) (exponent : Int) : Nat :=
  base.pow exponent.toNat

/-- The fraction that the bits of a finite number encode. The sign bit is ignored. -/
def Binary.ofBits (bits : UInt64) : Binary :=
  let biased := ((bits >>> 52) &&& 0x7FF).toNat
  let fraction := (bits &&& 0xFFFFFFFFFFFFF).toNat
  if biased == 0 then
    { mantissa := fraction, exponent := -1074, narrowBelow := false }
  else
    { mantissa := power 2 52 + fraction, exponent := (biased : Int) - 1075,
      narrowBelow := fraction == 0 && biased > 1 }

/-- The whole number that a fraction equals, if it equals one. -/
def Binary.whole? (value : Binary) : Option Nat :=
  let denominator := power 2 (-value.exponent)
  if value.mantissa % denominator == 0 then
    some (value.mantissa * power 2 value.exponent / denominator)
  else none

/-- A decimal `digits * 10 ^ scale`. -/
structure Scaled where
  digits : Nat
  scale : Int

/-- The order of `digits * 10 ^ scale` and `mantissa * 2 ^ exponent`. Both sides
are cleared of their denominators first, so the comparison is exact. -/
def Scaled.compareBinary (decimal : Scaled) (mantissa : Nat) (exponent : Int) : Ordering :=
  compare (decimal.digits * power 10 decimal.scale * power 2 (-exponent))
    (mantissa * power 2 exponent * power 10 (-decimal.scale))

/-- Whether a decimal lies in the interval of reals that the fraction stands for.
The ends are written in quarters of the last binary place. -/
def Binary.isNamedBy (value : Binary) (decimal : Scaled) : Bool :=
  let low := 4 * value.mantissa - (if value.narrowBelow then 1 else 2)
  let high := 4 * value.mantissa + 2
  let endsIncluded := value.mantissa % 2 == 0
  let atLow := decimal.compareBinary low (value.exponent - 2)
  let atHigh := decimal.compareBinary high (value.exponent - 2)
  (atLow == .gt || (endsIncluded && atLow == .eq)) &&
    (atHigh == .lt || (endsIncluded && atHigh == .eq))

/-- The least power of ten above a nonzero fraction. The binary logarithm gives
an estimate that is at most two too small. -/
def Binary.magnitude (value : Binary) : Int :=
  let bits := (Nat.log2 value.mantissa : Int) + value.exponent
  let estimate := (bits * 30103).fdiv 100000
  if Scaled.compareBinary ⟨1, estimate⟩ value.mantissa value.exponent == .gt then estimate
  else if Scaled.compareBinary ⟨1, estimate + 1⟩ value.mantissa value.exponent == .gt then
    estimate + 1
  else estimate + 2

/-- The greatest multiple of `10 ^ scale` that is at most the fraction, counted in
that unit. -/
def Binary.floorAt (value : Binary) (scale : Int) : Nat :=
  (value.mantissa * power 2 value.exponent * power 10 (-scale)) /
    (power 2 (-value.exponent) * power 10 scale)

/-- The decimal nearest to the fraction among those of one grid that name it. A
point halfway between two of them yields the even one. -/
def Binary.nearestAt (value : Binary) (scale : Int) : Option Scaled :=
  let below : Scaled := ⟨value.floorAt scale, scale⟩
  let above : Scaled := ⟨value.floorAt scale + 1, scale⟩
  match value.isNamedBy below, value.isNamedBy above with
  | false, false => none
  | true, false => some below
  | false, true => some above
  | true, true =>
    let middle : Scaled := ⟨below.digits + above.digits, scale⟩
    match middle.compareBinary value.mantissa (value.exponent + 1) with
    | .gt => some below
    | .lt => some above
    | .eq => some (if below.digits % 2 == 0 then below else above)

/-- The exact decimal of a fraction. -/
def Binary.exact (value : Binary) : Scaled :=
  if value.exponent < 0 then
    ⟨value.mantissa * power 5 (-value.exponent), value.exponent⟩
  else
    ⟨value.mantissa * power 2 value.exponent, 0⟩

/-- The decimal with the fewest digits that names a nonzero fraction. Seventeen
digits name every fraction of fifty-three bits. -/
def Binary.shortest (value : Binary) : Scaled :=
  let magnitude := value.magnitude
  let found := (List.range 17).findSome? fun (extra : Nat) =>
    value.nearestAt (magnitude - 1 - (extra : Int))
  found.getD value.exact

end ClassOrder.Decimal
