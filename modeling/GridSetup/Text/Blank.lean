import GridSetup.Text.CharSet

/-!
# White space

The blank characters are the White_Space property of Unicode: the ASCII blanks and line ends,
next line, no-break space, the ogham space, the fixed-width spaces, the line and paragraph
separators, the narrow and mathematical spaces and the ideographic space. A zero-width space or a
byte order mark is not blank.

`trim` takes blanks off both ends. `words` cuts a text into its maximal runs without a blank, and
`firstWord` is the first of them.
-/

namespace GridSetup.Text

/-- The characters that are white space. -/
def blankSet : CharSet :=
  ⟨[(0x9, 0xD), (0x20, 0x20), (0x85, 0x85), (0xA0, 0xA0), (0x1680, 0x1680), (0x2000, 0x200A),
    (0x2028, 0x2029), (0x202F, 0x202F), (0x205F, 0x205F), (0x3000, 0x3000)]⟩

/-- Whether a character is white space. -/
def isBlank (c : Char) : Bool :=
  blankSet.contains c

/-- The text without its leading blanks. -/
def trimStart (cs : List Char) : List Char :=
  cs.dropWhile isBlank

/-- The text without its trailing blanks. -/
def trimEnd : List Char → List Char
  | [] => []
  | c :: cs =>
    match trimEnd cs with
    | [] => if isBlank c then [] else [c]
    | rest => c :: rest

/-- The text without blanks at either end. -/
def trim (cs : List Char) : List Char :=
  trimEnd (trimStart cs)

/-- The maximal runs of characters that are not blank, in order. -/
def words : List Char → List (List Char)
  | [] => []
  | c :: cs =>
    if isBlank c then words cs
    else
      match cs, words cs with
      | d :: _, w :: ws => if isBlank d then [c] :: w :: ws else (c :: w) :: ws
      | _, ws => [c] :: ws

/-- The first run of characters that are not blank, if there is one. -/
def firstWord (cs : List Char) : Option (List Char) :=
  match trimStart cs with
  | [] => none
  | rest => some (rest.takeWhile fun c => !isBlank c)

end GridSetup.Text
