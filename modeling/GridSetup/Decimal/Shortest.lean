import GridSetup.Binary.Value

/-!
# The shortest decimal of a floating-point number

Every decimal between the two midpoints around a value rounds to that value; the midpoints
themselves do so exactly when the significand is even. The shortest decimal of a value is the one
with the fewest digits among these, and of those the nearest to the value. On the grid of decimals
with a given number of digits only the two neighbours of the value need a look: if any point of
the grid rounds to the value, one of the two does. A tie between them is left to the caller.
-/

namespace GridSetup

namespace Decimal

/-- Which of two equally near decimals is taken. -/
inductive Tie where
  | up
  | even
  deriving Repr, DecidableEq

end Decimal

namespace Binary.Value

open Decimal (Tie)

/-- The quotient of a quarter-unit multiple `k / 4 * 2 ^ exponent` and `10 ^ g`, as numerator and
denominator. -/
def quarters (v : Value) (k : Nat) (g : Int) : Nat × Nat :=
  let (n, d) := scaleBinary k 4 v.exponent
  scaleDecimal n d (-g)

/-- Whether the decimal `c * 10 ^ g` rounds to the value. -/
def admits (v : Value) (c : Nat) (g : Int) : Bool :=
  let below := v.quarters (4 * v.significand - if v.leastOfBinade then 1 else 2) g
  let above := v.quarters (4 * v.significand + 2) g
  if v.significand % 2 = 0 then below.1 ≤ c * below.2 && c * above.2 ≤ above.1
  else below.1 < c * below.2 && c * above.2 < above.1

/-- The largest `e` with `10 ^ e` at most the value. -/
def floorLog10 (v : Value) : Int :=
  let e := ((v.significand.log2 : Int) + v.exponent) * 30103 / 100000
  let reaches (g : Int) : Bool :=
    let q := v.quarters (4 * v.significand) g
    q.2 ≤ q.1
  if !reaches e then e - 1 else if reaches (e + 1) then e + 1 else e

/-- The multiple of `10 ^ g` that is nearest to the value among its two neighbours on the grid
that round to it. -/
def onGrid (v : Value) (tie : Tie) (g : Int) : Option Nat :=
  let q := v.quarters (4 * v.significand) g
  let lower := q.1 / q.2
  let rest := q.1 % q.2
  match v.admits lower g, v.admits (lower + 1) g with
  | false, false => none
  | true, false => some lower
  | false, true => some (lower + 1)
  | true, true =>
    if 2 * rest < q.2 then some lower
    else if q.2 < 2 * rest then some (lower + 1)
    else if tie = .up then some (lower + 1)
    else some (lower + lower % 2)

/-- The first hit on the grids with units `10 ^ g`, `10 ^ (g - 1)` and so on, for at most `count`
grids before the last. -/
def search (v : Value) (tie : Tie) : (count : Nat) → Int → Nat × Int
  | 0, g =>
    let q := v.quarters (4 * v.significand) g
    (q.1 / q.2, g)
  | count + 1, g =>
    match v.onGrid tie g with
    | some c => (c, g)
    | none => search v tie count (g - 1)

/-- The first hit on the grids from one digit on. A grid that is fine enough to hold the value
itself has a hit, so the search ends there at the latest. -/
def firstHit (v : Value) (tie : Tie) : Nat × Int :=
  let g := v.floorLog10
  v.search tie ((g - min 0 v.exponent).toNat + 1) g

end Binary.Value

namespace Decimal

/-- A decimal without trailing zeros in its coefficient. -/
def stripZeros : Nat → Nat → Int → Nat × Int
  | 0, c, g => (c, g)
  | fuel + 1, c, g => if c ≠ 0 ∧ c % 10 = 0 then stripZeros fuel (c / 10) (g + 1) else (c, g)

/-- The shortest decimal of the finite positive value with the given code, as a coefficient and a
power of ten. -/
def shortest (tie : Tie) (code : Nat) : Nat × Int :=
  let (c, g) := (Binary.Value.ofCode code).firstHit tie
  stripZeros c c g

end Decimal

end GridSetup
