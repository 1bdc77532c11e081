import GridSetup.Decimal.Layout
import GridSetup.Output.Document

/-!
# YAML

A document as YAML in block form: a field on each line, the fields of an inner table indented by
two blanks, the items of a list after a dash at the level of their field.

How a text is written depends on what a plain scalar would mean. A text that a reader would take
for null, a flag or a number stands in single quotes, and so does one that would not survive as a
plain scalar, because of an indicator in it or a blank at an end. Text with characters that
cannot be shown, or with a blank before a line break, stands in double quotes with escapes. A text
with a line feed is a literal block if it can be one. A key that spans lines or is longer than 128
bytes stands after a question mark.
-/

namespace GridSetup.Yaml

/-! ## What a plain scalar would mean -/

/-- Whether a text is a word for null. -/
def isNullWord (cs : List Char) : Bool :=
  cs ∈ ["null".toList, "Null".toList, "NULL".toList, "~".toList]

/-- Whether a text is a word for a flag. -/
def isFlagWord (cs : List Char) : Bool :=
  cs ∈ ["true".toList, "True".toList, "TRUE".toList, "false".toList, "False".toList,
    "FALSE".toList]

/-- The value of a digit in bases up to sixteen. -/
def digitValue? (c : Char) : Option Nat :=
  if c.isDigit then some (c.toNat - 48)
  else if 'a' ≤ c ∧ c ≤ 'f' then some (c.toNat - 87)
  else if 'A' ≤ c ∧ c ≤ 'F' then some (c.toNat - 55)
  else none

/-- The number that one or more digits of a base denote. -/
def readBase (base : Nat) (cs : List Char) : Option Nat :=
  match cs.mapM digitValue? with
  | some values =>
    if values ≠ [] ∧ values.all (· < base) then some (values.foldl (fun n d => base * n + d) 0)
    else none
  | none => none

/-- The base and the digits of an integer that names its base. -/
def namedBase : List Char → Option (Nat × List Char)
  | '0' :: 'x' :: cs => some (16, cs)
  | '0' :: 'o' :: cs => some (8, cs)
  | '0' :: 'b' :: cs => some (2, cs)
  | _ => none

/-- Whether a text is an integer that names its base and fits into 128 bits. -/
def isBaseInteger (cs : List Char) : Bool :=
  let negative := cs.head? == some '-'
  let body := match cs with
    | '-' :: rest => rest
    | '+' :: rest => rest
    | _ => cs
  match namedBase body with
  | some (base, digits) =>
    match readBase base digits with
    | some n =>
      if negative then n ≤ 0x80000000000000000000000000000000
      else n < 0x100000000000000000000000000000000
    | none => false
  | none => false

/-- Whether a text is digits that start with a needless zero, after an optional sign. -/
def isPaddedInteger (cs : List Char) : Bool :=
  let body := match cs with
    | '-' :: rest => rest
    | '+' :: rest => rest
    | _ => cs
  match body with
  | '0' :: d :: rest => (d :: rest).all Char.isDigit
  | _ => false

/-- Whether a text is a real number, or a word for one that is not finite. -/
def isReal (cs : List Char) : Bool :=
  let body := match cs with
    | '+' :: rest => rest
    | _ => cs
  if cs.head? == some '+' && (body.head? == some '+' || body.head? == some '-') then false
  else if body ∈ [".inf".toList, ".Inf".toList, ".INF".toList] then true
  else if cs ∈ ["-.inf".toList, "-.Inf".toList, "-.INF".toList] then true
  else if cs ∈ [".nan".toList, ".NaN".toList, ".NAN".toList] then true
  else
    match Binary.readFloat body with
    | some x => x.isFinite
    | none => false

/-- Whether a plain scalar with this text would not be read as text. -/
def meansOther (cs : List Char) : Bool :=
  cs.isEmpty || isNullWord cs || isFlagWord cs || isBaseInteger cs || isPaddedInteger cs
    || isReal cs

/-! ## What a scalar can carry -/

/-- Whether a character can be shown as it is. -/
def isPrintable (c : Char) : Bool :=
  let n := c.toNat
  n == 0xA || (0x20 ≤ n && n ≤ 0x7E) || (0xA0 ≤ n && n ≤ 0xD7FF)
    || (0xE000 ≤ n && n ≤ 0xFFFD && n != 0xFEFF) || 0x10000 ≤ n

/-- Whether a character breaks a line. -/
def isBreak (c : Char) : Bool :=
  c == '\n' || c == '\r' || c == '\u0085' || c == '\u2028' || c == '\u2029'

/-- Whether a character, or the end of the text, sets off an indicator. -/
def isSeparator : Option Char → Bool
  | none => true
  | some c => c == ' ' || c == '\t' || c == '\x00' || isBreak c

/-- Characters that a plain scalar cannot start with. -/
def startIndicators : List Char :=
  ['#', ',', '[', ']', '\x7b', '\x7d', '&', '*', '!', '|', '>', '\x27', '"', '%', '@', '\x60']

/-- Whether a text has an indicator at its start that a plain scalar cannot have there. -/
def startsWithIndicator (cs : List Char) : Bool :=
  match cs with
  | [] => false
  | c :: rest =>
    startIndicators.contains c
      || ((c == '?' || c == ':' || c == '-') && isSeparator rest.head?)
      || ['-', '-', '-'].isPrefixOf cs || ['.', '.', '.'].isPrefixOf cs

/-- Whether a text has a colon before a separator or a number sign after one, beyond its first
character. -/
def hasInnerIndicator : List Char → Bool
  | previous :: c :: rest =>
    (c == ':' && isSeparator rest.head?) || (c == '#' && isSeparator (some previous))
      || hasInnerIndicator (c :: rest)
  | _ => false

/-- Whether two characters that satisfy the given conditions stand side by side. -/
def hasPair (first second : Char → Bool) : List Char → Bool
  | a :: b :: rest => (first a && second b) || hasPair first second (b :: rest)
  | _ => false

/-- Whether a character is a blank. -/
def isSpace (c : Char) : Bool :=
  c == ' '

/-- Whether a text can only be written with escapes. -/
def needsEscapes (cs : List Char) : Bool :=
  cs.any (fun c => !isPrintable c) || hasPair isSpace isBreak cs

/-- Whether a text survives as a plain scalar. -/
def plainAllowed (cs : List Char) : Bool :=
  !(needsEscapes cs || cs.any isBreak || cs.head?.any isSpace || cs.getLast?.any isSpace
    || startsWithIndicator cs || hasInnerIndicator cs)

/-- Whether a text survives in single quotes. -/
def singleAllowed (cs : List Char) : Bool :=
  !(needsEscapes cs || hasPair isBreak isSpace cs)

/-- Whether a text survives as a literal block. -/
def blockAllowed (cs : List Char) : Bool :=
  !cs.isEmpty && !needsEscapes cs && !cs.getLast?.any isSpace

/-- The ways to write a scalar. -/
inductive Style where
  | plain
  | single
  | double
  | literal
  deriving Repr, DecidableEq

/-- The way a text is written as a value or as a key after a question mark. -/
def style (cs : List Char) : Style :=
  if cs.contains '\n' then if blockAllowed cs then .literal else .double
  else if !meansOther cs && plainAllowed cs then .plain
  else if singleAllowed cs then .single
  else .double

/-! ## Scalars -/

/-- The blanks that indent a line. -/
def indent (width : Nat) : List Char :=
  List.replicate width ' '

/-- A text with each line indented that is not empty; `atStart` tells that a line starts here. -/
def indentLines (width : Nat) (atStart : Bool) : List Char → List Char
  | [] => []
  | c :: rest =>
    if isBreak c then c :: indentLines width true rest
    else (if atStart then indent width else []) ++ c :: indentLines width false rest

/-- A text in single quotes; quotes within are doubled. -/
def singleQuoted (width : Nat) (cs : List Char) : List Char :=
  let body := cs.flatMap fun c => if c = '\x27' then ['\x27', '\x27'] else [c]
  let ending := if cs.getLast?.any isBreak then indent width else []
  '\x27' :: indentLines width false body ++ ending ++ ['\x27']

/-- The last `count` hexadecimal places of a number. -/
def hexPlaces : Nat → Nat → List Char
  | 0, _ => []
  | count + 1, n => hexPlaces count (n / 16) ++ [(Nat.digitChar (n % 16)).toUpper]

/-- A character as it stands in double quotes. -/
def escapeChar (c : Char) : List Char :=
  if isPrintable c && !isBreak c && c != '"' && c != '\\' then [c]
  else
    '\\' :: match c with
      | '\x00' => ['0']
      | '\x07' => ['a']
      | '\x08' => ['b']
      | '\t' => ['t']
      | '\n' => ['n']
      | '\x0b' => ['v']
      | '\x0c' => ['f']
      | '\r' => ['r']
      | '\x1b' => ['e']
      | '"' => ['"']
      | '\\' => ['\\']
      | '\u0085' => ['N']
      | '\u2028' => ['L']
      | '\u2029' => ['P']
      | _ =>
        if c.toNat ≤ 0xFF then 'x' :: hexPlaces 2 c.toNat
        else if c.toNat ≤ 0xFFFF then 'u' :: hexPlaces 4 c.toNat
        else 'U' :: hexPlaces 8 c.toNat

/-- A text in double quotes. -/
def doubleQuoted (cs : List Char) : List Char :=
  '"' :: cs.flatMap escapeChar ++ ['"']

/-- The signs after the bar of a literal block: the indentation where the text starts with a blank
or a break, a minus where it does not end in a break, a plus where it ends in more than one or is
nothing but one. -/
def blockSigns (cs : List Char) : List Char :=
  let lead := if cs.head?.any fun c => isSpace c || isBreak c then ['2'] else []
  let ending := match cs.reverse with
    | [] => ['-']
    | [c] => if isBreak c then ['+'] else ['-']
    | c :: d :: _ => if !isBreak c then ['-'] else if isBreak d then ['+'] else []
  lead ++ ending

/-- A text as a literal block. -/
def literalBlock (width : Nat) (cs : List Char) : List Char :=
  '|' :: blockSigns cs ++ '\n' :: indentLines width true cs

/-- A text as a scalar; `width` is the indentation of further lines. -/
def writeText (width : Nat) (cs : List Char) : List Char :=
  match style cs with
  | .plain => cs
  | .single => singleQuoted width cs
  | .double => doubleQuoted cs
  | .literal => literalBlock width cs

/-- Real numbers have a point or an exponent, and an exponent outside `1e-5` to `1e15`. -/
def realStyle : Decimal.RealStyle :=
  { tie := .even, pointZero := true, positional := some (-5, 15), plusSign := false,
    notANumber := ".nan", infinite := ".inf" }

/-- A real number as a scalar. -/
def writeReal (x : Float) : List Char :=
  realStyle.write x

/-! ## Documents -/

/-- A text up to a line break that is already there at its end, or with one added. -/
def endLine (cs : List Char) : List Char :=
  if cs.getLast?.any isBreak then cs else cs ++ ['\n']

/-- A key up to its colon. A key that is long or spans lines stands after a question mark. -/
def writeKey (width : Nat) (key : List Char) : List Char :=
  if key.any isBreak || 128 < (String.ofList key).utf8ByteSize then
    '?' :: ' ' :: endLine (writeText (width + 2) key) ++ indent width ++ [':']
  else writeText (width + 2) key ++ [':']

mutual

/-- A value after its key or dash, with its line end; `width` is the indentation of the line. -/
def writeValue (width : Nat) : Document → List Char
  | .null => " null\n".toList
  | .integer n => ' ' :: Decimal.writeInt n ++ ['\n']
  | .real x => ' ' :: writeReal x ++ ['\n']
  | .text s => ' ' :: endLine (writeText (width + 2) s.toList)
  | .list [] => " []\n".toList
  | .list (item :: rest) => '\n' :: writeItems width (item :: rest)
  | .fields [] => " \x7b\x7d\n".toList
  | .fields (entry :: rest) => '\n' :: writeFields (width + 2) (entry :: rest)

/-- The items of a list, each on lines of its own. -/
def writeItems (width : Nat) : List Document → List Char
  | [] => []
  | item :: rest => indent width ++ '-' :: writeValue width item ++ writeItems width rest

/-- The fields of a table, each on lines of its own. -/
def writeFields (width : Nat) : List (String × Document) → List Char
  | [] => []
  | (key, value) :: rest =>
    indent width ++ writeKey width key.toList ++ writeValue width value ++ writeFields width rest

end

/-- A document of fields as YAML. -/
def write : Document → String
  | .fields (entry :: rest) => String.ofList (writeFields 0 (entry :: rest))
  | d => String.ofList ((writeValue 0 d).drop 1)

end GridSetup.Yaml
