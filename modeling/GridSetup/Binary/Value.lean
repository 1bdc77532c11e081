import GridSetup.Binary.Format

/-!
# Values of double-precision numbers

The bit pattern of a number is a sign and a code. A code below that of infinity stands for the
magnitude `significand * 2 ^ exponent`, and the code of infinity itself for the power of two after
the largest of these, so that it compares and rounds as a number too large for any purpose. Every
greater code stands for no number.
-/

namespace GridSetup.Binary

/-- Whether the sign bit of a number is set. -/
def isNegative (x : Float) : Bool :=
  double.signCode ≤ x.toBits.toNat

/-- The code of a number without its sign. -/
def codeOf (x : Float) : Nat :=
  x.toBits.toNat % double.signCode

/-- A magnitude `significand * 2 ^ exponent`, and whether it is the least of its binade, so that
the values below it are twice as dense. -/
structure Value where
  significand : Nat
  exponent : Int
  leastOfBinade : Bool

namespace Value

/-- The magnitude with the given double-precision code. -/
def ofCode (code : Nat) : Value :=
  let fraction := code % 0x10000000000000
  let biased : Nat := code / 0x10000000000000
  if biased = 0 then ⟨fraction, -1074, false⟩
  else ⟨0x10000000000000 + fraction, (biased : Int) - 1075, fraction = 0 && biased != 1⟩

/-- The nearest natural number, the greater of two equally near. -/
def round (v : Value) : Nat :=
  let (n, d) := scaleBinary v.significand 1 v.exponent
  (2 * n + d) / (2 * d)

end Value

/-- The integer nearest to a number, of two equally near the one away from zero; none if it is no
number. -/
def roundToInt (x : Float) : Option Int :=
  if double.infinityCode < codeOf x then none
  else
    let n : Int := (Value.ofCode (codeOf x)).round
    some (if isNegative x then -n else n)

end GridSetup.Binary
