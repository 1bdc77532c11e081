import GridSetup.Text.LetterCase

/-!
# Choices named by a word

Three settings take one word out of a fixed list: how the coordinates of the grid are given, which
part of the domain is simulated, and by which rule the time step is found. `Choice` is what they
share: the list and the word of each member. A word is recognised in any ASCII case and nothing
else about it is forgiven.
-/

namespace GridSetup

/-- The settings that are a choice between words. -/
inductive ChoiceKind where
  | gridType
  | domain
  | timeStepMethod
  deriving Repr, DecidableEq

/-- What a setting is called in messages. -/
def ChoiceKind.noun : ChoiceKind → String
  | .gridType => "grid type"
  | .domain => "domain"
  | .timeStepMethod => "time step method"

/-- A type whose members are named by words. -/
class Choice (α : Type) where
  kind : ChoiceKind
  all : List α
  /-- The word of a member, in lower case. -/
  word : α → String

/-- The member that a word names, in any ASCII case. -/
def Choice.find? {α : Type} [Choice α] (w : String) : Option α :=
  (Choice.all : List α).find? fun a => (Choice.word a).toList == Text.asciiLower w.toList

/-- How spacing and origin are found. -/
inductive GridType where
  /-- A unit box with its corner at minus one half. -/
  | box
  /-- The first and last coordinate of each axis are given. -/
  | byRange
  /-- The spacing of each axis is given and the grid is centred on the origin. -/
  | bySpacing
  deriving Repr, DecidableEq

/-- The word of a grid type. -/
def GridType.word : GridType → String
  | .box => "box"
  | .byRange => "byrange"
  | .bySpacing => "byspacing"

instance : Choice GridType where
  kind := .gridType
  all := [.box, .byRange, .bySpacing]
  word := GridType.word

/-- Which part of a domain with mirror symmetry is simulated. -/
inductive Domain where
  /-- All of it. -/
  | full
  /-- The half with `z ≥ 0`. -/
  | bitant
  /-- The quarter with `x ≥ 0` and `y ≥ 0`. -/
  | quadrant
  /-- The eighth with all three coordinates at least zero. -/
  | octant
  deriving Repr, DecidableEq

namespace Domain

/-- The word of a domain. -/
def word : Domain → String
  | .full => "full"
  | .bitant => "bitant"
  | .quadrant => "quadrant"
  | .octant => "octant"

/-- The axes with a symmetry plane at their lower end, in rising order. -/
def mirroredAxes : Domain → List Nat
  | .full => []
  | .bitant => [2]
  | .quadrant => [0, 1]
  | .octant => [0, 1, 2]

/-- Whether an axis has a symmetry plane at its lower end. -/
def mirrors (d : Domain) (axis : Nat) : Bool :=
  d.mirroredAxes.contains axis

end Domain

instance : Choice Domain where
  kind := .domain
  all := [.full, .bitant, .quadrant, .octant]
  word := Domain.word

/-- The rule that gives the time step. -/
inductive TimeStepMethod where
  /-- The step is a parameter. -/
  | given
  /-- A factor times the least spacing. -/
  | courantStatic
  /-- The Courant condition for a given wave speed. -/
  | courantSpeed
  /-- The Courant condition for a given crossing time. -/
  | courantTime
  deriving Repr, DecidableEq

/-- The word of a time step method. -/
def TimeStepMethod.word : TimeStepMethod → String
  | .given => "given"
  | .courantStatic => "courant_static"
  | .courantSpeed => "courant_speed"
  | .courantTime => "courant_time"

instance : Choice TimeStepMethod where
  kind := .timeStepMethod
  all := [.given, .courantStatic, .courantSpeed, .courantTime]
  word := TimeStepMethod.word

end GridSetup
