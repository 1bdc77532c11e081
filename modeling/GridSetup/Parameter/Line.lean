import GridSetup.Text.Blank
import GridSetup.Text.LetterCase
import GridSetup.Text.Word

/-!
# Lines of a parameter file

A line is a comment if its first character that is not blank is `#` or `!`, and blank if it has no
such character. An assignment is a name, an equals sign and a value, with blanks allowed around
the name and after the sign. The name is `namespace::key`, both parts non-empty runs of word
characters, or the keyword that lists the active thorns, in any case. The value is the rest of the
line as it stands, up to its last character; it holds no line feed. Everything else is malformed.

The keyword's case is folded character by character, which identifies its letter `s` with the long
s as well. The key of an assignment is its name in lower case.
-/

namespace GridSetup.Parameter

/-- What a well-formed line says. -/
inductive Line where
  | comment
  | blank
  | assignment (key value : String)
  deriving Repr, DecidableEq

/-- A key in the form under which its value is stored. -/
def foldKey (key : String) : String :=
  String.ofList (Text.lowercase key.toList)

/-- The key under which the list of active thorns is stored. -/
def activeThornsKey : String := "activethorns"

/-- A character in lower case, and `s` for the long s. -/
def foldKeywordChar (c : Char) : Char :=
  if c = 'ſ' then 's' else Text.asciiLowerChar c

/-- Whether a word is the keyword for the list of active thorns, in any case. -/
def isThornsKeyword (word : List Char) : Bool :=
  word.map foldKeywordChar == activeThornsKey.toList

/-- Splits a text after the name at its start, if it starts with one. -/
def splitName (cs : List Char) : Option (List Char × List Char) :=
  let first := cs.takeWhile Text.isWord
  match cs.dropWhile Text.isWord with
  | ':' :: ':' :: after =>
    let second := after.takeWhile Text.isWord
    if first ≠ [] ∧ second ≠ [] then
      some (first ++ ':' :: ':' :: second, after.dropWhile Text.isWord)
    else none
  | rest => if isThornsKeyword first then some (first, rest) else none

/-- The name and the value of an assignment that starts with its name. -/
def splitAssignment (cs : List Char) : Option (List Char × List Char) :=
  match splitName cs with
  | none => none
  | some (name, rest) =>
    match Text.trimStart rest with
    | '=' :: after =>
      let value := Text.trimStart after
      if value.contains '\n' then none else some (name, value)
    | _ => none

namespace Line

/-- What a line says; none if it is malformed. -/
def ofChars? (cs : List Char) : Option Line :=
  match Text.trimStart cs with
  | [] => some .blank
  | c :: rest =>
    if c = '#' ∨ c = '!' then some .comment
    else
      (splitAssignment (c :: rest)).map fun (name, value) =>
        .assignment (foldKey (String.ofList name)) (String.ofList value)

/-- What a line says; none if it is malformed. -/
def ofString? (line : String) : Option Line :=
  ofChars? line.toList

end Line

end GridSetup.Parameter
