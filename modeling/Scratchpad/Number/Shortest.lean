import Scratchpad.Number.Binary

/-! The shortest decimal that reads back as a given binary value. The reals that round to the
value form an interval; of the decimal grids, from coarse to fine, the first with a point in
the interval gives the digits.
-/

namespace Scratchpad

/-- The number `digits * 10 ^ exponent`. -/
structure Decimal where
  digits : Nat
  exponent : Int
deriving DecidableEq

namespace BinaryFormat

/-- The reals that round to a value, in units of a quarter of its last place: the value and the
two ends, which belong to the interval if `closed`.
-/
structure Rounding where
  low : Nat
  value : Nat
  high : Nat
  unit : Int
  closed : Bool

/-- The interval around `significand * 2 ^ exponent`. Below a power of two the neighbours lie
closer, and a tie goes to the even significand.
-/
def rounding (format : BinaryFormat) (significand : Nat) (exponent : Int) : Rounding :=
  let closer := significand == format.hiddenBit && exponent > format.leastExponent
  {
    low := 4 * significand - (if closer then 1 else 2)
    value := 4 * significand
    high := 4 * significand + 2
    unit := exponent - 2
    closed := significand % 2 == 0
  }

namespace Rounding

/-- What multiplies a number of units when both it and the grid are made whole. -/
def scale (r : Rounding) (grid : Int) : Nat :=
  Nat.pow 2 r.unit.toNat * Nat.pow 10 (-grid).toNat

/-- What multiplies a point of the grid `10 ^ grid` when both it and the units are made whole. -/
def step (r : Rounding) (grid : Int) : Nat :=
  Nat.pow 2 (-r.unit).toNat * Nat.pow 10 grid.toNat

/-- Whether the interval holds the given point of a grid. -/
def holds (r : Rounding) (grid : Int) (point : Nat) : Bool :=
  let place := point * r.step grid
  if r.closed then r.low * r.scale grid ≤ place && place ≤ r.high * r.scale grid
  else r.low * r.scale grid < place && place < r.high * r.scale grid

/-- The last point of a grid that is not above the value. -/
def below (r : Rounding) (grid : Int) : Nat := r.value * r.scale grid / r.step grid

/-- The point next to the value on the grid of multiples of `10 ^ grid`, if one of its two
neighbours there lies in the interval. Of two such, the nearer is taken, and of two equally near
the larger.
-/
def nearest? (r : Rounding) (grid : Int) : Option Nat :=
  let low := r.below grid
  let high := low + 1
  let place := r.value * r.scale grid
  match r.holds grid low, r.holds grid high with
  | false, false => none
  | true, false => some low
  | false, true => some high
  | true, true =>
    if place - low * r.step grid < high * r.step grid - place then some low else some high

/-- The first grid with a point in the interval, searched from `10 ^ grid` down through `fuel`
finer grids.
-/
def search (r : Rounding) : Nat → Int → Decimal
  | 0, grid => ⟨r.below grid, grid⟩
  | fuel + 1, grid =>
    match r.nearest? grid with
    | some digits => ⟨digits, grid⟩
    | none => r.search fuel (grid - 1)

end Rounding

/-- The shortest decimal that reads back as `significand * 2 ^ exponent`. The first grid is
coarser than the value, by an estimate of its decimal logarithm, and seventeen digits always
suffice.
-/
def shortest (format : BinaryFormat) (significand : Nat) (exponent : Int) : Decimal :=
  let magnitude := (Int.ofNat significand.log2 + exponent) * 30103 / 100000
  (format.rounding significand exponent).search 20 (magnitude + 1)

end BinaryFormat

end Scratchpad
