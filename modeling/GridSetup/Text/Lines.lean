/-!
# Lines of a text

A line ends at a line feed, and a carriage return directly before that line feed belongs to the
line end. After a final line feed no empty line follows; a last line without one keeps all its
characters, a trailing carriage return included.
-/

namespace GridSetup.Text

/-- The text cut after each line feed. -/
def pieces : List Char → List (List Char)
  | [] => []
  | c :: cs =>
    if c = '\n' then [c] :: pieces cs
    else
      match pieces cs with
      | [] => [[c]]
      | p :: ps => (c :: p) :: ps

/-- A piece without its line end. -/
def dropLineEnd (p : List Char) : List Char :=
  if p.getLast? = some '\n' then
    let line := p.dropLast
    if line.getLast? = some '\r' then line.dropLast else line
  else p

/-- The lines of a text, without their line ends. -/
def lines (cs : List Char) : List (List Char) :=
  (pieces cs).map dropLineEnd

end GridSetup.Text
