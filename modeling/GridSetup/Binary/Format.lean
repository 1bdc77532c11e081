import GridSetup.Decimal.Literal

/-!
# Binary floating-point formats

A format has a number of significant bits and a least exponent. Its finite values are
`m * 2 ^ e` with `m < 2 ^ precision` and `least ≤ e`, up to a largest exponent. The code of a value
is its bit pattern without the sign: since the patterns of a format are consecutive integers in
the order of the values, rounding up past the largest significand runs into the next exponent by
plain addition, and past the largest value into infinity.

`Format.nearest` rounds an exact quotient to the nearest value, a tie to the even significand.
-/

namespace GridSetup.Binary

/-- A binary floating-point format. -/
structure Format where
  /-- Significant bits, the implicit one included. -/
  precision : Nat
  /-- The exponent of the last bit of the smallest values. -/
  least : Int
  /-- The code of infinity. -/
  infinityCode : Nat
  /-- The code of the sign bit. -/
  signCode : Nat
  /-- The code of the number that stands for no number. -/
  nanCode : Nat

/-- The double-precision format. -/
def double : Format :=
  { precision := 53, least := -1074, infinityCode := 0x7FF0000000000000,
    signCode := 0x8000000000000000, nanCode := 0x7FF8000000000000 }

/-- The single-precision format. -/
def single : Format :=
  { precision := 24, least := -149, infinityCode := 0x7F800000, signCode := 0x80000000,
    nanCode := 0x7FC00000 }

/-- The integer nearest to `num / den`, the even one of two equally near. -/
def roundQuotient (num den : Nat) : Nat :=
  let q := num / den
  let r := num % den
  if 2 * r < den then q else if den < 2 * r then q + 1 else q + q % 2

/-- The quotient `num / den * 2 ^ e` as numerator and denominator. -/
def scaleBinary (num den : Nat) (e : Int) : Nat × Nat :=
  if e < 0 then (num, den * Nat.pow 2 e.natAbs) else (num * Nat.pow 2 e.natAbs, den)

/-- The quotient `num / den * 10 ^ e` as numerator and denominator. -/
def scaleDecimal (num den : Nat) (e : Int) : Nat × Nat :=
  if e < 0 then (num, den * Nat.pow 10 e.natAbs) else (num * Nat.pow 10 e.natAbs, den)

/-- The largest `e` with `2 ^ e ≤ num / den`, for positive `num` and `den`. -/
def floorLog (num den : Nat) : Int :=
  let e : Int := (num.log2 : Int) - den.log2
  let (n, d) := scaleBinary num den (-e)
  if n < d then e - 1 else e

namespace Format

/-- The code of the value nearest to `num / den`, for positive `num` and `den`. -/
def nearest (f : Format) (num den : Nat) : Nat :=
  let e := max f.least (floorLog num den - f.precision + 1)
  let (n, d) := scaleBinary num den (-e)
  min f.infinityCode
    ((e - f.least).toNat * Nat.pow 2 (f.precision - 1) + roundQuotient n d)

/-- The code of the value nearest to `coefficient * 10 ^ exponent`. Powers far outside the range
of every format are cut off before they are computed. -/
def nearestDecimal (f : Format) (coefficient : Nat) (exponent : Int) : Nat :=
  if coefficient = 0 then 0
  else if 400 < exponent then f.infinityCode
  else if exponent + coefficient.log2 + 1 < -400 then 0
  else
    let (n, d) := scaleDecimal coefficient 1 exponent
    f.nearest n d

/-- The bit pattern of a magnitude with its sign. -/
def signed (f : Format) (negative : Bool) (code : Nat) : Nat :=
  if negative then f.signCode + code else code

/-- The bit pattern of the value nearest to what a literal denotes. -/
def ofLiteral (f : Format) : Decimal.Literal → Nat
  | .notANumber => f.nanCode
  | .infinite negative => f.signed negative f.infinityCode
  | .finite negative coefficient exponent =>
    f.signed negative (f.nearestDecimal coefficient exponent)

end Format

/-- The double-precision number nearest to a literal. -/
def readFloat (cs : List Char) : Option Float :=
  (Decimal.Literal.read cs).map fun l => Float.ofBits (UInt64.ofNat (double.ofLiteral l))

/-- The single-precision number nearest to a literal. -/
def readFloat32 (cs : List Char) : Option Float32 :=
  (Decimal.Literal.read cs).map fun l => Float32.ofBits (UInt32.ofNat (single.ofLiteral l))

end GridSetup.Binary
