import GridSetup.Text.Blank
import GridSetup.Text.LetterCase

/-!
# Tidy values

A value is tidied once, after the whole file is read: its double quotes go, then the blanks at
its ends, and a value that is then a word for true or false becomes `1` or `0`. A tidy value is
left alone by tidying, since it has no quotes and no outer blanks and the digits are no words.
-/

namespace GridSetup.Parameter

/-- The words for true, in lower case. -/
def trueWords : List (List Char) :=
  [['y', 'e', 's'], ['y'], ['t', 'r', 'u', 'e'], ['t']]

/-- The words for false, in lower case. -/
def falseWords : List (List Char) :=
  [['n', 'o'], ['n'], ['f', 'a', 'l', 's', 'e'], ['f']]

/-- The text without double quotes. -/
def unquote (cs : List Char) : List Char :=
  cs.filter (· ≠ '"')

/-- The digit for a word that is true or false in any ASCII case, any other text as it is. -/
def flagDigit (cs : List Char) : List Char :=
  if trueWords.contains (Text.asciiLower cs) then ['1']
  else if falseWords.contains (Text.asciiLower cs) then ['0']
  else cs

/-- A value without quotes and outer blanks, and a boolean word as a digit. -/
def tidyChars (cs : List Char) : List Char :=
  flagDigit (Text.trim (unquote cs))

/-- A value without quotes and outer blanks, and a boolean word as a digit. -/
def tidy (value : String) : String :=
  String.ofList (tidyChars value.toList)

end GridSetup.Parameter
