/-!
# Integers in decimal

Writing gives the digits without leading zeros, after a minus sign for a negative number. Reading
takes one or more digits, leading zeros included, after a sign: `readNat` allows a plus sign,
`readInt` either sign. Blanks, separators and digits outside ASCII are refused.
-/

namespace GridSetup.Decimal

/-- The decimal digits of a natural number. -/
def writeNat (n : Nat) : List Char :=
  Nat.toDigits 10 n

/-- The decimal text of an integer. -/
def writeInt (n : Int) : List Char :=
  if n < 0 then '-' :: writeNat n.natAbs else writeNat n.natAbs

/-- The number that one or more digits denote. -/
def readDigits (cs : List Char) : Option Nat :=
  if cs ≠ [] ∧ cs.all Char.isDigit then some (Nat.ofDigitChars 10 cs 0) else none

/-- The number that digits denote, with an optional plus sign. -/
def readNat : List Char → Option Nat
  | '+' :: cs => readDigits cs
  | cs => readDigits cs

/-- The number that digits denote, with an optional sign. -/
def readInt : List Char → Option Int
  | '-' :: cs => (readDigits cs).map fun n => -(n : Int)
  | '+' :: cs => (readDigits cs).map Int.ofNat
  | cs => (readDigits cs).map Int.ofNat

/-- What `writeNat` writes is read back. -/
theorem readDigits_writeNat (n : Nat) : readDigits (writeNat n) = some n := by
  have hdigits : (writeNat n).all Char.isDigit = true := by
    simp only [writeNat, List.all_eq_true]
    exact fun c hc => Nat.isDigit_of_mem_toDigits (by omega) (by omega) hc
  have hne : writeNat n ≠ [] := by simp [writeNat]
  rw [readDigits, if_pos ⟨hne, hdigits⟩, writeNat, Nat.ofDigitChars_toDigits (by omega) (by omega)]

end GridSetup.Decimal
