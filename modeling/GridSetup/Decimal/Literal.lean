import GridSetup.Decimal.Integer
import GridSetup.Text.LetterCase

/-!
# Decimal literals of real numbers

A literal is a sign, digits with at most one point among or around them, and an exponent; or one
of the words for infinity and for not a number, in any case. At least one digit must stand before
the exponent, which itself needs one. Reading keeps the number exact: a coefficient and a power of
ten. Rounding it to a binary format is a separate step. Only the exponent has a limit: its digits
are taken until they make 65536 or more, far beyond the range of any format.
-/

namespace GridSetup.Decimal

/-- What a literal denotes. A finite one is `± coefficient * 10 ^ exponent`. -/
inductive Literal where
  | notANumber
  | infinite (negative : Bool)
  | finite (negative : Bool) (coefficient : Nat) (exponent : Int)
  deriving Repr, DecidableEq

namespace Literal

/-- Whether a sign is negative, and what follows it. -/
def splitSign : List Char → Bool × List Char
  | '-' :: cs => (true, cs)
  | '+' :: cs => (false, cs)
  | cs => (false, cs)

/-- The digits after a decimal point, if there is one, and what follows them. -/
def splitFraction : List Char → List Char × List Char
  | '.' :: cs => (cs.takeWhile Char.isDigit, cs.dropWhile Char.isDigit)
  | cs => ([], cs)

/-- The number that the digits of an exponent make, those after the limit left out. -/
def exponentValue (digits : List Char) : Nat :=
  digits.foldl (fun e c => if e < 65536 then 10 * e + (c.toNat - '0'.toNat) else e) 0

/-- The exponent that ends a literal, zero if the literal ends without one. -/
def readExponent : List Char → Option Int
  | [] => some 0
  | c :: cs =>
    let (negative, digits) := splitSign cs
    if (c = 'e' ∨ c = 'E') ∧ digits ≠ [] ∧ digits.all Char.isDigit then
      some (if negative then -(exponentValue digits : Int) else exponentValue digits)
    else none

/-- The number that digits, point and exponent denote. -/
def readFinite (negative : Bool) (cs : List Char) : Option Literal :=
  let whole := cs.takeWhile Char.isDigit
  let (fraction, rest) := splitFraction (cs.dropWhile Char.isDigit)
  if whole = [] ∧ fraction = [] then none
  else
    (readExponent rest).map fun e =>
      .finite negative (Nat.ofDigitChars 10 (whole ++ fraction) 0) (e - fraction.length)

/-- The number that a literal denotes. -/
def read (cs : List Char) : Option Literal :=
  let (negative, body) := splitSign cs
  let word := Text.asciiLower body
  if word = ['n', 'a', 'n'] then some .notANumber
  else if word = ['i', 'n', 'f'] ∨ word = ['i', 'n', 'f', 'i', 'n', 'i', 't', 'y'] then
    some (.infinite negative)
  else readFinite negative body

end Literal

end GridSetup.Decimal
