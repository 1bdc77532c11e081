import GridSetup.Decimal.Layout
import GridSetup.Output.Document

/-!
# JSON

A document as JSON, on one line without blanks or over several lines with two blanks for each
level. In a string only quotation marks, backslashes and control characters are escaped. A real
number that is no finite number has no literal and becomes null.
-/

namespace GridSetup.Json

/-- The digit of a hexadecimal place. -/
def hexDigit (n : Nat) : Char :=
  Nat.digitChar n

/-- A character as it stands in a string. -/
def escapeChar (c : Char) : List Char :=
  if c = '"' then ['\\', '"']
  else if c = '\\' then ['\\', '\\']
  else if c = '\x08' then ['\\', 'b']
  else if c = '\t' then ['\\', 't']
  else if c = '\n' then ['\\', 'n']
  else if c = '\x0c' then ['\\', 'f']
  else if c = '\r' then ['\\', 'r']
  else if c.toNat < 32 then
    ['\\', 'u', '0', '0', hexDigit (c.toNat / 16), hexDigit (c.toNat % 16)]
  else [c]

/-- A text as a string. -/
def quote (cs : List Char) : List Char :=
  '"' :: cs.flatMap escapeChar ++ ['"']

/-- Real numbers have a point or an exponent, and an exponent, with its sign, outside `1e-5` to
`1e+15`. -/
def realStyle : Decimal.RealStyle :=
  { tie := .even, pointZero := true, positional := some (-5, 15), plusSign := true,
    notANumber := "null", infinite := "null" }

/-- A real number as a literal. -/
def writeReal (x : Float) : List Char :=
  if x.isFinite then realStyle.write x else ['n', 'u', 'l', 'l']

/-- Parts with a separator between them. -/
def join (separator : List Char) : List (List Char) → List Char
  | [] => []
  | [part] => part
  | part :: rest => part ++ separator ++ join separator rest

mutual

/-- A document on one line. -/
def compact : Document → List Char
  | .null => ['n', 'u', 'l', 'l']
  | .integer n => Decimal.writeInt n
  | .real x => writeReal x
  | .text s => quote s.toList
  | .list items => '[' :: join [','] (compactItems items) ++ [']']
  | .fields entries => '\x7b' :: join [','] (compactFields entries) ++ ['\x7d']

/-- The items of a list on one line. -/
def compactItems : List Document → List (List Char)
  | [] => []
  | item :: rest => compact item :: compactItems rest

/-- The fields of an object on one line. -/
def compactFields : List (String × Document) → List (List Char)
  | [] => []
  | (key, value) :: rest => (quote key.toList ++ ':' :: compact value) :: compactFields rest

end

/-- A line break and the blanks of a level. -/
def newLine (level : Nat) : List Char :=
  '\n' :: List.replicate (2 * level) ' '

/-- Parts within brackets, each on a line of its own; nothing between the brackets of none. -/
def block (opening closing : Char) (level : Nat) (parts : List (List Char)) : List Char :=
  if parts.isEmpty then [opening, closing]
  else
    opening :: newLine (level + 1) ++ join (',' :: newLine (level + 1)) parts
      ++ newLine level ++ [closing]

mutual

/-- A document over several lines, from the given level on. -/
def pretty (level : Nat) : Document → List Char
  | .null => ['n', 'u', 'l', 'l']
  | .integer n => Decimal.writeInt n
  | .real x => writeReal x
  | .text s => quote s.toList
  | .list items => block '[' ']' level (prettyItems (level + 1) items)
  | .fields entries => block '\x7b' '\x7d' level (prettyFields (level + 1) entries)

/-- The items of a list over several lines. -/
def prettyItems (level : Nat) : List Document → List (List Char)
  | [] => []
  | item :: rest => pretty level item :: prettyItems level rest

/-- The fields of an object over several lines. -/
def prettyFields (level : Nat) : List (String × Document) → List (List Char)
  | [] => []
  | (key, value) :: rest =>
    (quote key.toList ++ ':' :: ' ' :: pretty level value) :: prettyFields level rest

end

/-- A document on one line without blanks. -/
def write (d : Document) : String :=
  String.ofList (compact d)

/-- A document over several lines. -/
def writePretty (d : Document) : String :=
  String.ofList (pretty 0 d)

end GridSetup.Json
