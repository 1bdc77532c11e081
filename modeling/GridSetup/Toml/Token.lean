import GridSetup.Binary.Format

/-!
# Parts of a TOML document

A TOML document is a list of statements, each on a line of its own, and the parts of a statement
are keys, strings, numbers and the blanks and comments between them. A reader of a part
takes the text from its first character on and gives what it read and the rest of the text, or
nothing if the text does not start with a well-formed part. Readers that repeat a step take a bound
on the repetitions, for which the length of the document is always enough.
-/

namespace GridSetup.Toml

/-- A reader of a part at the start of a text. -/
abbrev Reader (α : Type) := List Char → Option (α × List Char)

/-! ## Blanks, comments and line ends -/

/-- Whether a character is a blank within a line. -/
def isGap (c : Char) : Bool :=
  c == ' ' || c == '\t'

/-- The text without the blanks at its start. -/
def skipGap (cs : List Char) : List Char :=
  cs.dropWhile isGap

/-- Whether a character may stand in a comment. -/
def isCommentChar (c : Char) : Bool :=
  c == '\t' || (' ' ≤ c && c != '\x7f')

/-- The text without the comment at its start, if there is one. -/
def skipComment : List Char → List Char
  | '#' :: cs => cs.dropWhile isCommentChar
  | cs => cs

/-- The text after the line end at its start. -/
def lineEnd : List Char → Option (List Char)
  | '\n' :: cs => some cs
  | '\r' :: '\n' :: cs => some cs
  | _ => none

/-- The text after what may follow a statement on its line. -/
def statementEnd (cs : List Char) : Option (List Char) :=
  match skipComment (skipGap cs) with
  | [] => some []
  | rest => lineEnd rest

/-- The text without blanks, comments and line ends at its start; `inComment` tells that a comment
has begun. -/
def skipLines (inComment : Bool) : List Char → List Char
  | [] => []
  | '\n' :: cs => skipLines false cs
  | '\r' :: '\n' :: cs => skipLines false cs
  | c :: cs =>
    if inComment then if isCommentChar c then skipLines true cs else c :: cs
    else if isGap c then skipLines false cs
    else if c = '#' then skipLines true cs
    else c :: cs

/-- The text without blanks and line ends at its start. -/
def skipBlankLines : List Char → List Char
  | [] => []
  | '\n' :: cs => skipBlankLines cs
  | '\r' :: '\n' :: cs => skipBlankLines cs
  | c :: cs => if isGap c then skipBlankLines cs else c :: cs

/-! ## Strings -/

/-- Whether a character may stand unescaped in a string on one line, quotation marks and
backslashes aside. -/
def isStringChar (c : Char) : Bool :=
  isCommentChar c

/-- The value of a hexadecimal digit. -/
def hexValue? (c : Char) : Option Nat :=
  if c.isDigit then some (c.toNat - 48)
  else if 'a' ≤ c ∧ c ≤ 'f' then some (c.toNat - 87)
  else if 'A' ≤ c ∧ c ≤ 'F' then some (c.toNat - 55)
  else none

/-- The character whose code point is written with the given number of hexadecimal digits. -/
def codePoint (count : Nat) : Reader Char := fun cs =>
  let digits := cs.take count
  match digits.mapM hexValue? with
  | some values =>
    let n := values.foldl (fun n d => 16 * n + d) 0
    if digits.length = count ∧ (n < 0xD800 ∨ (0xDFFF < n ∧ n < 0x110000)) then
      some (Char.ofNat n, cs.drop count)
    else none
  | none => none

/-- The character that an escape after a backslash stands for. -/
def escape : Reader Char
  | 'b' :: cs => some ('\x08', cs)
  | 't' :: cs => some ('\t', cs)
  | 'n' :: cs => some ('\n', cs)
  | 'f' :: cs => some ('\x0c', cs)
  | 'r' :: cs => some ('\r', cs)
  | '"' :: cs => some ('"', cs)
  | '\\' :: cs => some ('\\', cs)
  | 'u' :: cs => codePoint 4 cs
  | 'U' :: cs => codePoint 8 cs
  | _ => none

/-- The rest of a string in double quotes after the opening quote. -/
def quotedRest : Nat → Reader (List Char)
  | 0, _ => none
  | _ + 1, '"' :: cs => some ([], cs)
  | fuel + 1, '\\' :: cs => do
    let (c, cs) ← escape cs
    let (text, cs) ← quotedRest fuel cs
    return (c :: text, cs)
  | fuel + 1, c :: cs =>
    if isStringChar c then do
      let (text, cs) ← quotedRest fuel cs
      return (c :: text, cs)
    else none
  | _ + 1, [] => none

/-- The rest of a string in single quotes after the opening quote. -/
def literalRest : Reader (List Char)
  | '\x27' :: cs => some ([], cs)
  | c :: cs =>
    if isStringChar c then do
      let (text, cs) ← literalRest cs
      return (c :: text, cs)
    else none
  | [] => none

/-- The text after a backslash that ends a line within a string: the line end and all blanks and
line ends after it go. -/
def continuedLine (cs : List Char) : Option (List Char) :=
  (lineEnd (skipGap cs)).map skipBlankLines

/-- The end of a string with tripled quotes: at most two quotes that belong to the string, and
then the three that close it. -/
def tripleEnd (quote : Char) (cs : List Char) : Option (List Char × List Char) :=
  let run := cs.takeWhile (· == quote)
  if 3 ≤ run.length ∧ run.length ≤ 5 then some (run.drop 3, cs.drop run.length)
  else if 5 < run.length then some (run.take 2, cs.drop 5)
  else none

/-- The rest of a string in tripled double quotes after the opening quotes. -/
def multilineRest : Nat → Reader (List Char)
  | 0, _ => none
  | _ + 1, [] => none
  | fuel + 1, c :: cs =>
    match tripleEnd '"' (c :: cs), lineEnd (c :: cs) with
    | some done, _ => some done
    | none, some rest => more fuel '\n' rest
    | none, none =>
      if c = '\\' then
        match continuedLine cs with
        | some rest => multilineRest fuel rest
        | none => do
          let (e, rest) ← escape cs
          more fuel e rest
      else if isStringChar c then more fuel c cs
      else none
where
  more (fuel : Nat) (c : Char) (cs : List Char) : Option (List Char × List Char) := do
    let (text, cs) ← multilineRest fuel cs
    return (c :: text, cs)

/-- The rest of a string in tripled single quotes after the opening quotes. -/
def multilineLiteralRest : Nat → Reader (List Char)
  | 0, _ => none
  | _ + 1, [] => none
  | fuel + 1, c :: cs =>
    match tripleEnd '\x27' (c :: cs), lineEnd (c :: cs) with
    | some done, _ => some done
    | none, some rest => do
      let (text, cs) ← multilineLiteralRest fuel rest
      return ('\n' :: text, cs)
    | none, none =>
      if isStringChar c then do
        let (text, cs) ← multilineLiteralRest fuel cs
        return (c :: text, cs)
      else none

/-- The text without a line end directly after opening quotes. -/
def dropFirstLineEnd (cs : List Char) : List Char :=
  (lineEnd cs).getD cs

/-- A string on one line, in double or single quotes. -/
def lineString (bound : Nat) : Reader (List Char)
  | '"' :: cs => quotedRest bound cs
  | '\x27' :: cs => literalRest cs
  | _ => none

/-- A string of any kind. -/
def string (bound : Nat) : Reader (List Char)
  | '"' :: '"' :: '"' :: cs => multilineRest bound (dropFirstLineEnd cs)
  | '\x27' :: '\x27' :: '\x27' :: cs => multilineLiteralRest bound (dropFirstLineEnd cs)
  | cs => lineString bound cs

/-! ## Keys -/

/-- Whether a character may stand in a key without quotes. -/
def isBareKeyChar (c : Char) : Bool :=
  c.isAlphanum || c == '_' || c == '-'

/-- One part of a key, bare or a string on one line. -/
def simpleKey (bound : Nat) : Reader String := fun cs =>
  match cs.takeWhile isBareKeyChar with
  | [] => (lineString bound cs).map fun (text, rest) => (String.ofList text, rest)
  | key => some (String.ofList key, cs.dropWhile isBareKeyChar)

/-- Further parts of a key, each after a point. -/
def keyRest (bound : Nat) : Nat → List String → List Char → Option (List String × List Char)
  | 0, _, _ => none
  | fuel + 1, parts, cs =>
    match skipGap cs with
    | '.' :: rest => do
      let (part, rest) ← simpleKey bound (skipGap rest)
      keyRest bound fuel (part :: parts) rest
    | rest => some (parts, rest)

/-- The deepest nesting of tables and lists. -/
def depthLimit : Nat := 80

/-- A key of one or more parts, its last part first, and the text after the blanks behind it. -/
def key (bound : Nat) : Reader (String × List String) := fun cs => do
  let (first, rest) ← simpleKey bound (skipGap cs)
  match ← keyRest bound bound [first] rest with
  | (last :: path, rest) =>
    if path.length + 1 < depthLimit then some ((last, path.reverse), rest) else none
  | ([], _) => none

/-! ## Numbers -/

/-- Whether text is digits of a base with single underscores between them. -/
def isDigitRun (isDigit : Char → Bool) : List Char → Bool
  | [] => false
  | [c] => isDigit c
  | c :: '_' :: cs => isDigit c && isDigitRun isDigit cs
  | c :: cs => isDigit c && isDigitRun isDigit cs

/-- Whether text is a decimal run without a leading zero, zero itself apart. -/
def isPlainRun (cs : List Char) : Bool :=
  isDigitRun Char.isDigit cs && (cs == ['0'] || cs.head? != some '0')

/-- The text without a sign at its start. -/
def unsigned : List Char → List Char
  | '+' :: cs => cs
  | '-' :: cs => cs
  | cs => cs

/-- The integer with the given digits if it fits into 64 bits. -/
def integerOf (n : Int) : Option Int :=
  if -0x8000000000000000 ≤ n ∧ n < 0x8000000000000000 then some n else none

/-- The number that digits of a base denote, underscores between them passed over. -/
def baseValue (base : Nat) (cs : List Char) : Nat :=
  (cs.filterMap hexValue?).foldl (fun n d => base * n + d) 0

/-- An integer in one of the bases that have a letter of their own, or in decimal. -/
def integer? : List Char → Option Int
  | '0' :: 'x' :: cs =>
    if isDigitRun (fun c => (hexValue? c).isSome) cs then integerOf (baseValue 16 cs) else none
  | '0' :: 'o' :: cs =>
    if isDigitRun (fun c => '0' ≤ c && c ≤ '7') cs then integerOf (baseValue 8 cs) else none
  | '0' :: 'b' :: cs =>
    if isDigitRun (fun c => c == '0' || c == '1') cs then integerOf (baseValue 2 cs) else none
  | cs =>
    if isPlainRun (unsigned cs) then
      (Decimal.readInt (cs.filter (· != '_'))).bind integerOf
    else none

/-- Whether text is an exponent with its letter. -/
def isExponent : List Char → Bool
  | c :: cs => (c == 'e' || c == 'E') && isDigitRun Char.isDigit (unsigned cs)
  | [] => false

/-- Whether text without a sign is a real number: a whole part and a fraction, an exponent or
both. -/
def isRealForm (cs : List Char) : Bool :=
  let inRun (c : Char) : Bool := c.isDigit || c == '_'
  isPlainRun (cs.takeWhile inRun) &&
    match cs.dropWhile inRun with
    | '.' :: rest =>
      isDigitRun Char.isDigit (rest.takeWhile inRun) &&
        (rest.dropWhile inRun == [] || isExponent (rest.dropWhile inRun))
    | rest => isExponent rest

/-- A real number. One that is too large is refused, one that is too low is minus infinity. -/
def real? (cs : List Char) : Option Float :=
  let body := unsigned cs
  if body == ['i', 'n', 'f'] || body == ['n', 'a', 'n'] then Binary.readFloat cs
  else if isRealForm body then
    (Binary.readFloat (cs.filter (· != '_'))).filter fun x => x != 1.0 / 0.0
  else none

/-- Whether a character may stand in a number. -/
def isNumberChar (c : Char) : Bool :=
  c.isAlphanum || c == '+' || c == '-' || c == '_' || c == '.'

end GridSetup.Toml
