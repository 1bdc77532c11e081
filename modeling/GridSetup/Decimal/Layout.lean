import GridSetup.Decimal.Shortest

/-!
# Writing real numbers

A real number is written with the shortest digits that read back. What differs between outputs is
where the digits go, and a `RealStyle` states it: whether a whole number keeps a point and a zero,
for which magnitudes an exponent replaces the zeros and how its sign is written, and the words for
the values that have no digits. Each output has its style beside it.
-/

namespace GridSetup.Decimal

/-- How real numbers are laid out. -/
structure RealStyle where
  /-- Which of two equally near shortest decimals is written. -/
  tie : Tie
  /-- Whether a whole number without exponent ends in `.0`. -/
  pointZero : Bool
  /-- The powers of ten between which the leading digit is written without an exponent, both
  included; none means that an exponent is never written. -/
  positional : Option (Int × Int)
  /-- Whether an exponent that is not negative has a plus sign. -/
  plusSign : Bool
  notANumber : String
  infinite : String

/-- The digits of `coefficient * 10 ^ exponent` with a point at its place. -/
def writePositional (pointZero : Bool) (digits : List Char) (exponent : Int) : List Char :=
  if 0 ≤ exponent then
    digits ++ List.replicate exponent.toNat '0' ++ if pointZero then ['.', '0'] else []
  else
    let places := exponent.natAbs
    if places < digits.length then
      digits.take (digits.length - places) ++ '.' :: digits.drop (digits.length - places)
    else
      '0' :: '.' :: List.replicate (places - digits.length) '0' ++ digits

/-- The digits with a point after the first and the power of ten of the first. -/
def writeScientific (plusSign : Bool) (digits : List Char) (power : Int) : List Char :=
  let exponent := if plusSign ∧ 0 ≤ power then '+' :: writeInt power else writeInt power
  match digits with
  | [] => []
  | [d] => d :: 'e' :: exponent
  | d :: ds => d :: '.' :: ds ++ 'e' :: exponent

namespace RealStyle

/-- The text of the finite value with the given code, without a sign. -/
def writeFinite (style : RealStyle) (code : Nat) : List Char :=
  if code = 0 then writePositional style.pointZero ['0'] 0
  else
    let (c, g) := shortest style.tie code
    let digits := writeNat c
    let power := g + digits.length - 1
    match style.positional with
    | none => writePositional style.pointZero digits g
    | some (low, high) =>
      if low ≤ power ∧ power ≤ high then writePositional style.pointZero digits g
      else writeScientific style.plusSign digits power

/-- The text of a real number. -/
def write (style : RealStyle) (x : Float) : List Char :=
  let code := Binary.codeOf x
  if Binary.double.infinityCode < code then style.notANumber.toList
  else
    let magnitude :=
      if code = Binary.double.infinityCode then style.infinite.toList else style.writeFinite code
    if Binary.isNegative x then '-' :: magnitude else magnitude

end RealStyle

end GridSetup.Decimal
