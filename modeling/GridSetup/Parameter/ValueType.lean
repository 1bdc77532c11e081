import GridSetup.Binary.Format

/-!
# Types of parameter values

A parameter is text until it is read. `ValueType` lists the types it can be read as; each has a
carrier in the logic, a name for messages, and a reading of one token. An integer type takes an
optional sign and digits and refuses a number outside its range; a type without negative numbers
takes no minus sign, not even before zero. A flag is the digit one or zero, the form that the
boolean words have after tidying.
-/

namespace GridSetup

/-- The types that a parameter value can be read as. -/
inductive ValueType where
  | int32
  | int64
  | nat32
  | nat64
  /-- A count of things in memory, 64 bits wide. -/
  | count
  | single
  | double
  | flag
  | word
  deriving Repr, DecidableEq

namespace ValueType

/-- All types of values. -/
def all : List ValueType :=
  [.int32, .int64, .nat32, .nat64, .count, .single, .double, .flag, .word]

/-- The name of a type in messages. -/
def name : ValueType → String
  | .int32 => "i32"
  | .int64 => "i64"
  | .nat32 => "u32"
  | .nat64 => "u64"
  | .count => "usize"
  | .single => "f32"
  | .double => "f64"
  | .flag => "bool"
  | .word => "String"

/-- The values of a type. -/
@[reducible] def Carrier : ValueType → Type
  | .int32 => Int32
  | .int64 => Int64
  | .nat32 => UInt32
  | .nat64 => UInt64
  | .count => UInt64
  | .single => Float32
  | .double => Float
  | .flag => Bool
  | .word => String

/-- The integer that a token denotes if it lies between two bounds. -/
def readIntBetween (low high : Int) (token : List Char) : Option Int :=
  (Decimal.readInt token).filter fun n => low ≤ n && n ≤ high

/-- The natural number that a token denotes if it lies below a bound. -/
def readNatBelow (bound : Nat) (token : List Char) : Option Nat :=
  (Decimal.readNat token).filter fun n => n < bound

/-- The value that a whole token denotes. -/
def readToken : (t : ValueType) → List Char → Option t.Carrier
  | .int32, token => (readIntBetween (-0x80000000) 0x7fffffff token).map Int32.ofInt
  | .int64, token => (readIntBetween (-0x8000000000000000) 0x7fffffffffffffff token).map
      Int64.ofInt
  | .nat32, token => (readNatBelow 0x100000000 token).map UInt32.ofNat
  | .nat64, token => (readNatBelow 0x10000000000000000 token).map UInt64.ofNat
  | .count, token => (readNatBelow 0x10000000000000000 token).map UInt64.ofNat
  | .single, token => Binary.readFloat32 token
  | .double, token => Binary.readFloat token
  | .flag, token => if token = ['1'] then some true else if token = ['0'] then some false else none
  | .word, token => some (String.ofList token)

end ValueType

end GridSetup
