import GridSetup.Error
import GridSetup.Parameter.Line
import GridSetup.Parameter.Value
import GridSetup.Table
import GridSetup.Text.Lines

/-!
# Parameters

The parameters of a run are values under keys. Keys are compared in lower case: they are stored in
that form and looked up in that form. Values are stored as they are written in the file until
`normalize` tidies them all, which happens once; a value that is put in later is tidied on its way
in. Reading a file stops at its first malformed line and otherwise lets a later assignment to a
key replace an earlier one.

A value is read as a type by its first word, and the whole of that word counts. A value without a
word never reads.
-/

namespace GridSetup

open Parameter

/-- The values that are set, and whether they are tidied. -/
structure Parameters where
  table : Table String
  normalized : Bool
  deriving DecidableEq

namespace Parameters

/-- No parameters, as before a file is read. -/
def empty : Parameters :=
  ⟨Table.empty, false⟩

instance : Inhabited Parameters := ⟨empty⟩

/-- Sets a parameter, in place of a value set before. -/
def insert (p : Parameters) (key value : String) : Parameters :=
  { p with table := p.table.insert (foldKey key) (if p.normalized then tidy value else value) }

/-- Sets parameters one after the other. -/
def insertAll (p : Parameters) (pairs : List (String × String)) : Parameters :=
  pairs.foldl (fun p e => p.insert e.1 e.2) p

/-- The parameters with the given values, not tidied. -/
def ofPairs (pairs : List (String × String)) : Parameters :=
  empty.insertAll pairs

/-- The value of a parameter as it is stored. -/
def value? (p : Parameters) (key : String) : Option String :=
  p.table.get? (foldKey key)

/-- Whether a parameter is set. -/
def contains (p : Parameters) (key : String) : Bool :=
  p.table.contains (foldKey key)

/-- The number of parameters that are set. -/
def size (p : Parameters) : Nat :=
  p.table.size

/-- Keys and values in the order of the keys. -/
def entries (p : Parameters) : List (String × String) :=
  p.table.toList

/-- Tidies all values, unless that has been done. -/
def normalize (p : Parameters) : Parameters :=
  if p.normalized then p else ⟨p.table.mapValues tidy, true⟩

/-- The names in the list of active thorns, in the order of the list. -/
def activeThorns (p : Parameters) : List String :=
  match p.value? activeThornsKey with
  | some list => (Text.words list.toList).map String.ofList
  | none => []

/-! ## Reading a file -/

/-- Adds what the lines say; `number` is the number of the first. -/
def addLines (p : Parameters) (number : Nat) : List String → Except Error Parameters
  | [] => .ok p
  | line :: rest =>
    match Line.ofString? line with
    | some (.assignment key value) => (p.insert key value).addLines (number + 1) rest
    | some .comment => p.addLines (number + 1) rest
    | some .blank => p.addLines (number + 1) rest
    | none => .error (.malformedLine number line)

/-- The parameters that lines set, not tidied. -/
def ofLines (lines : List String) : Except Error Parameters :=
  empty.addLines 1 lines

/-- The parameters that a text sets, not tidied. -/
def ofSource (source : String) : Except Error Parameters :=
  ofLines ((Text.lines source.toList).map String.ofList)

/-- The parameters that a text sets, tidied. -/
def ofSourceNormalized (source : String) : Except Error Parameters :=
  (ofSource source).map normalize

/-! ## Typed access -/

/-- The value that the first word of a text denotes. -/
def readValue (t : ValueType) (value : String) : Except Error t.Carrier :=
  match (Text.firstWord value.toList).bind t.readToken with
  | some v => .ok v
  | none => .error (.unreadableValue value t)

/-- A parameter that must be set, read as a type. -/
def get (p : Parameters) (t : ValueType) (key : String) : Except Error t.Carrier :=
  match p.value? key with
  | some value => readValue t value
  | none => .error (.notSet (foldKey key))

/-- A parameter read as a type if it is set. -/
def get? (p : Parameters) (t : ValueType) (key : String) : Except Error (Option t.Carrier) :=
  match p.value? key with
  | some value => (readValue t value).map some
  | none => .ok none

/-- A parameter read as a type if it is set, and otherwise a default. -/
def getD (p : Parameters) (t : ValueType) (key : String) (default : t.Carrier) :
    Except Error t.Carrier :=
  (p.get? t key).map (Option.getD · default)

/-- The member of a choice that a word names. -/
def choose {α : Type} [Choice α] (word : String) : Except Error α :=
  match Choice.find? word with
  | some a => .ok a
  | none => .error (.unknownWord (Choice.kind α) word)

/-- A parameter read as the word of a choice if it is set, and otherwise a default. -/
def getChoiceD {α : Type} [Choice α] (p : Parameters) (key : String) (default : α) :
    Except Error α := do
  match ← p.get? .word key with
  | some word => choose word
  | none => .ok default

end Parameters

end GridSetup
