import GridSetup.Binary.Value
import GridSetup.Error
import GridSetup.PerAxis
import GridSetup.Settings.Setting

/-!
# Typed settings

How a tree of settings is taken as numbers, flags, words and triples. Conversion is generous with
single values: a flag counts as zero or one, a real number is rounded where an integer is wanted,
and text may be one of the words for a flag or the literal of a number. It is strict with shapes.
-/

namespace GridSetup.Setting

/-- What the words for true and false stand for. -/
def flagWord? (text : String) : Option Bool :=
  let word := String.ofList (Text.lowercase text.toList)
  if word ∈ ["true", "on", "yes"] then some true
  else if word ∈ ["false", "off", "no"] then some false
  else none

/-- A real number rounded to the nearest integer, a half away from zero, and cut to the range of
64-bit integers; zero if it is no number. -/
def roundInt64 (x : Float) : Int :=
  match Binary.roundToInt x with
  | some n => max (-0x8000000000000000) (min n 0x7fffffffffffffff)
  | none => 0

/-- A real number rounded to the nearest integer, a half away from zero, and cut to the range of
64-bit natural numbers; zero if it is no number. -/
def roundNat64 (x : Float) : Nat :=
  match Binary.roundToInt x with
  | some n => min n.toNat 0xffffffffffffffff
  | none => 0

/-- A signed 64-bit integer. -/
def toInt64 : Setting → Except SettingsError Int
  | .integer n => .ok n
  | .real x => .ok (roundInt64 x)
  | .flag b => .ok (if b then 1 else 0)
  | .text s =>
    match flagWord? s with
    | some b => .ok (if b then 1 else 0)
    | none =>
      match ValueType.readToken .int64 s.toList with
      | some n => .ok n.toInt
      | none => .error .wrongType
  | _ => .error .wrongType

/-- A signed 32-bit integer; outside that range there is none. -/
def toInt32 (s : Setting) : Except SettingsError Int32 := do
  let n ← s.toInt64
  if -0x80000000 ≤ n ∧ n < 0x80000000 then return Int32.ofInt n else throw .wrongType

/-- A 64-bit natural number. -/
def toNat64 : Setting → Except SettingsError Nat
  | .integer n => if 0 ≤ n then .ok n.toNat else .error .wrongType
  | .real x => .ok (roundNat64 x)
  | .flag b => .ok (if b then 1 else 0)
  | .text s =>
    match flagWord? s with
    | some b => .ok (if b then 1 else 0)
    | none =>
      match ValueType.readToken .nat64 s.toList with
      | some n => .ok n.toNat
      | none => .error .wrongType
  | _ => .error .wrongType

/-- A real number. -/
def toReal : Setting → Except SettingsError Float
  | .real x => .ok x
  | .integer n => .ok (Float.ofInt n)
  | .flag b => .ok (if b then 1 else 0)
  | .text s =>
    match flagWord? s with
    | some b => .ok (if b then 1 else 0)
    | none =>
      match Binary.readFloat s.toList with
      | some x => .ok x
      | none => .error .wrongType
  | _ => .error .wrongType

/-- A flag. A number is true unless it is zero. -/
def toFlag : Setting → Except SettingsError Bool
  | .flag b => .ok b
  | .integer n => .ok (n != 0)
  | .real x => .ok (x != 0)
  | .text s =>
    if s = "1" then .ok true
    else if s = "0" then .ok false
    else
      match flagWord? s with
      | some b => .ok b
      | none => .error .wrongType
  | _ => .error .wrongType

/-- The member of a choice that a word names; a table with a single key stands for that key. -/
def toChoice {α : Type} [Choice α] (s : Setting) : Except SettingsError α :=
  let word? := match s with
    | .text w => some w
    | .table [(w, _)] => some w
    | _ => none
  match word?.bind Choice.find? with
  | some a => .ok a
  | none => .error .wrongShape

/-- Three values from the first three items of a list, converted in order. -/
def toTriple {α : Type} (convert : Setting → Except SettingsError α) (s : Setting) :
    Except SettingsError (PerAxis α) :=
  let item (i : Nat) : Except SettingsError α :=
    match s.items[i]? with
    | some v => convert v
    | none => .error .wrongShape
  return ⟨← item 0, ← item 1, ← item 2⟩

/-- Whether a setting is a table. -/
def isTable : Setting → Bool
  | .table _ => true
  | _ => false

end GridSetup.Setting
