import GridSetup.Choice
import GridSetup.Parameter.ValueType

/-!
# What can go wrong

An error is a cause with its data; the wording is in `Error.message` alone. Each failure aborts
the whole task, so the first cause met is the only one reported.
-/

namespace GridSetup

/-- Why layers of default settings give no defaults. -/
inductive SettingsError where
  /-- The key of an override is not a path. -/
  | malformedPath (key : String)
  /-- A file is not well formed. -/
  | malformedFile (path : String)
  /-- A file that must exist does not. -/
  | missingFile (path : String)
  /-- A file that must be readable is not text. -/
  | notText (path : String)
  /-- A value cannot be taken as the number or flag that is wanted. -/
  | wrongType
  /-- A table, a list of three or a known word is wanted and something else is there. -/
  | wrongShape
  deriving Repr, DecidableEq

/-- The wording of an error in the layers of defaults. -/
def SettingsError.message : SettingsError → String
  | .malformedPath key => "malformed settings key \"" ++ key ++ "\""
  | .malformedFile path => "malformed configuration file \"" ++ path ++ "\""
  | .missingFile path => "configuration file \"" ++ path ++ "\" not found"
  | .notText _ => "stream did not contain valid UTF-8"
  | .wrongType => "a setting has the wrong type"
  | .wrongShape => "a setting has the wrong shape"

/-- Why a file that exists cannot be read. -/
inductive ReadFailure where
  | isDirectory
  | notText
  deriving Repr, DecidableEq

/-- The wording of a failed read. -/
def ReadFailure.message : ReadFailure → String
  | .isDirectory => "Is a directory (os error 21)"
  | .notText => "stream did not contain valid UTF-8"

/-- What can go wrong between a parameter file and a grid. -/
inductive Error where
  /-- A line is no comment, no blank line and no assignment; lines are counted from one. -/
  | malformedLine (number : Nat) (line : String)
  /-- The first word of a value is no literal of the wanted type. -/
  | unreadableValue (value : String) (wanted : ValueType)
  /-- A parameter that must be set is not. -/
  | notSet (key : String)
  /-- A word names no member of a choice. -/
  | unknownWord (kind : ChoiceKind) (word : String)
  /-- The time step method needs a parameter that is not set. -/
  | methodNeeds (method : TimeStepMethod) (key : String)
  /-- An axis has no grid point. -/
  | nonPositiveSize (axis : Nat) (size : Int32)
  /-- There are no or too many axes. -/
  | unsupportedDimension (dimension : Nat)
  /-- The parameter file does not exist. -/
  | missingFile (path : String)
  /-- The parameter file cannot be read. -/
  | unreadableFile (path : String) (cause : ReadFailure)
  /-- The layers of default settings give no defaults. -/
  | badDefaults (cause : SettingsError)
  deriving Repr, DecidableEq

/-- The groups of errors that callers tell apart. -/
inductive ErrorFamily where
  | grammar
  | conversion
  | configuration
  | lookup
  deriving Repr, DecidableEq

namespace Error

/-- The group of an error. -/
def family : Error → ErrorFamily
  | .malformedLine .. => .grammar
  | .unreadableValue .. => .conversion
  | .notSet .. => .lookup
  | _ => .configuration

/-- The wording of an error. -/
def message : Error → String
  | .malformedLine number line =>
    "syntax error in line " ++ String.ofList (Decimal.writeNat number) ++ ": \"" ++ line ++ "\""
  | .unreadableValue value wanted => "failed to convert \"" ++ value ++ "\" to " ++ wanted.name
  | .notSet key => "parameter \"" ++ key ++ "\" is not set"
  | .unknownWord kind word => "unknown " ++ kind.noun ++ " \"" ++ word ++ "\""
  | .methodNeeds method key =>
    "time step method \"" ++ method.word ++ "\" requires parameter \"" ++ key ++ "\""
  | .nonPositiveSize axis size =>
    "grid size " ++ String.ofList (Decimal.writeInt size.toInt) ++ " on axis "
      ++ String.ofList (Decimal.writeNat axis) ++ " must be at least 1"
  | .unsupportedDimension dimension =>
    "unsupported dimension " ++ String.ofList (Decimal.writeNat dimension) ++ ", expected 1 to 3"
  | .missingFile path => "parameter file \"" ++ path ++ "\" does not exist"
  | .unreadableFile path cause => "bad parameter file \"" ++ path ++ "\": " ++ cause.message
  | .badDefaults cause => cause.message

end Error

end GridSetup
