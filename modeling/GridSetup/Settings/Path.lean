import GridSetup.Decimal.Integer
import GridSetup.Settings.Setting

/-!
# Paths to settings

The text of a path is a key, followed by further keys after points and by indices in square
brackets. A key is a run of ASCII letters, digits, underscores, hyphens and spaces. An index is
digits after an optional minus sign, with spaces and tabs allowed around it, and fits into 64 bits.
-/

namespace GridSetup.Setting

/-- A path: the key it starts with and the steps from there. -/
structure Path where
  start : String
  steps : List Step
  deriving Repr, DecidableEq

namespace Path

/-- Whether a character may stand in a key of a path. -/
def isKeyChar (c : Char) : Bool :=
  c.isAlphanum || c == '_' || c == '-' || c == ' '

/-- Whether a character may stand around an index. -/
def isGap (c : Char) : Bool :=
  c == ' ' || c == '\t'

/-- The key at the start of a text and what follows it. -/
def splitKey (cs : List Char) : Option (String × List Char) :=
  match cs.takeWhile isKeyChar with
  | [] => none
  | key => some (String.ofList key, cs.dropWhile isKeyChar)

/-- The index at the start of a text up to the closing bracket, and what follows that. -/
def splitIndex (cs : List Char) : Option (Int × List Char) :=
  let body := cs.dropWhile isGap
  let (negative, body) := match body with
    | '-' :: rest => (true, rest)
    | _ => (false, body)
  match Decimal.readDigits (body.takeWhile Char.isDigit),
      (body.dropWhile Char.isDigit).dropWhile isGap with
  | some n, ']' :: rest =>
    let index : Int := if negative then -(n : Int) else n
    if -0x8000000000000000 ≤ index ∧ index < 0x8000000000000000 then some (index, rest) else none
  | _, _ => none

/-- The steps that a whole text writes out, for texts of at most `fuel` characters. -/
def readSteps : Nat → List Char → Option (List Step)
  | _, [] => some []
  | fuel + 1, '.' :: cs => do
    let (key, rest) ← splitKey cs
    return .entry key :: (← readSteps fuel rest)
  | fuel + 1, '[' :: cs => do
    let (index, rest) ← splitIndex cs
    return .item index :: (← readSteps fuel rest)
  | _, _ => none

/-- The path that a text writes out. -/
def read (text : String) : Option Path := do
  let (start, rest) ← splitKey text.toList
  return ⟨start, ← readSteps rest.length rest⟩

end Path

/-- The setting with a value put at the place of a path. -/
def assignAt (s : Setting) (path : Path) (value : Setting) : Setting :=
  s.assign value (.entry path.start) path.steps

end GridSetup.Setting
