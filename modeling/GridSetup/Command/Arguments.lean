import GridSetup.Text.Blank

/-!
# Arguments of the command line

The program has two commands. `resolve` takes the path of a parameter file, an output format, a
file of defaults and any number of parameters to set; `params` takes a path alone. Either may be
asked to be verbose, before or after the name of the command, and the version may be asked for
instead of a command.

An option has a long name and may have a letter. Its value stands in the next argument, after an
equals sign, or directly after the letter; the next argument is no value if it starts with a
hyphen and is not that hyphen alone. Letters of options without a value may be joined. After two
hyphens every argument is a path. An option may be given once, except that parameters may be set
repeatedly. Arguments are read from left to right, and asking for the version ends the reading.
-/

namespace GridSetup.Command

/-- The ways to write a resolution. -/
inductive Format where
  | text
  | json
  | yaml
  deriving Repr, DecidableEq

/-- The format with the given name. -/
def Format.ofString? : String → Option Format
  | "text" => some .text
  | "json" => some .json
  | "yaml" => some .yaml
  | _ => none

/-- What the resolve command is asked to do. -/
structure ResolveRequest where
  path : String
  format : Format
  /-- A file of defaults that must exist. -/
  defaults : Option String
  /-- Parameters to set after the file is read, in order. -/
  settings : List (String × String)
  deriving Repr, DecidableEq

/-- What the program is asked to do. -/
inductive Request where
  | version
  | resolve (request : ResolveRequest)
  | params (path : String)
  deriving Repr, DecidableEq

/-- A parameter to set, written `key=value`, without the blanks around key and value. The key ends
at the first equals sign and must not be empty. -/
def readSetting (argument : String) : Option (String × String) :=
  let cs := argument.toList
  match cs.dropWhile (· ≠ '=') with
  | _ :: value =>
    let key := Text.trim (cs.takeWhile (· ≠ '='))
    if key = [] then none else some (String.ofList key, String.ofList (Text.trim value))
  | [] => none

/-! ## Options -/

/-- The options that the program knows. -/
inductive OptionName where
  | verbose
  | version
  | format
  | defaults
  | set
  deriving Repr, DecidableEq

/-- Whether an option has a value. -/
def OptionName.takesValue : OptionName → Bool
  | .verbose => false
  | .version => false
  | _ => true

/-- The places where arguments are read: before the name of a command, or after it. -/
inductive Place where
  | program
  | resolve
  | params
  deriving Repr, DecidableEq

/-- The option with a long name at a place. -/
def longOption? : Place → String → Option OptionName
  | _, "verbose" => some .verbose
  | .program, "version" => some .version
  | .resolve, "format" => some .format
  | .resolve, "defaults" => some .defaults
  | .resolve, "set" => some .set
  | _, _ => none

/-- The option with a letter at a place. -/
def letterOption? : Place → Char → Option OptionName
  | _, 'v' => some .verbose
  | .program, 'V' => some .version
  | .resolve, 'f' => some .format
  | _, _ => none

/-- What the arguments of one place have given so far. -/
structure Given where
  verbose : Bool
  version : Bool
  format : Option Format
  defaults : Option String
  settings : List (String × String)
  path : Option String
  deriving Repr, DecidableEq

/-- Nothing given. -/
def Given.nothing : Given :=
  ⟨false, false, none, none, [], none⟩

/-- What is given after an option without a value; none if it was given before. -/
def Given.flag (g : Given) : OptionName → Option Given
  | .verbose => if g.verbose then none else some { g with verbose := true }
  | .version => some { g with version := true }
  | _ => none

/-- What is given after an option with its value; none if the value is not allowed or the option
was given before and may be given once. -/
def Given.option (g : Given) (name : OptionName) (value : String) : Option Given :=
  match name with
  | .format =>
    match g.format, Format.ofString? value with
    | none, some format => some { g with format := some format }
    | _, _ => none
  | .defaults => if g.defaults.isSome then none else some { g with defaults := some value }
  | .set => (readSetting value).map fun setting => { g with settings := g.settings ++ [setting] }
  | _ => none

/-- What is given after a path; none if there was one before. -/
def Given.withPath (g : Given) (path : String) : Option Given :=
  if g.path.isSome then none else some { g with path := some path }

/-- Whether the next argument may be the value of an option. -/
def isValue (argument : String) : Bool :=
  argument == "-" || !argument.startsWith "-"

/-- What joined letters give: options without a value, and possibly one with a value at their end.
The value is the rest of the letters without a leading equals sign, or is asked for. -/
def readLetters (place : Place) (g : Given) : List Char → Option (Given × Option OptionName)
  | [] => some (g, none)
  | c :: rest =>
    if g.version then some (g, none)
    else do
      let name ← letterOption? place c
      if name.takesValue then
        match rest with
        | [] => return (g, some name)
        | '=' :: value => return (← g.option name (String.ofList value), none)
        | value => return (← g.option name (String.ofList value), none)
      else readLetters place (← g.flag name) rest

/-- What an argument that starts with two hyphens gives, and the option whose value is still
missing. -/
def readLong (place : Place) (g : Given) (body : List Char) :
    Option (Given × Option OptionName) := do
  let name ← longOption? place (String.ofList (body.takeWhile (· ≠ '=')))
  match name.takesValue, body.dropWhile (· ≠ '=') with
  | false, [] => return (← g.flag name, none)
  | false, _ => none
  | true, [] => return (g, some name)
  | true, _ :: value => return (← g.option name (String.ofList value), none)

/-- What an option in an argument gives, and the option whose value is still missing. -/
def readOption (place : Place) (g : Given) (argument : String) :
    Option (Given × Option OptionName) :=
  match argument.toList with
  | '-' :: '-' :: body => readLong place g body
  | '-' :: letters => readLetters place g letters
  | _ => none

/-- The arguments of a command as paths. -/
def readPaths (g : Given) : List String → Option Given
  | [] => some g
  | path :: rest => do readPaths (← g.withPath path) rest

/-- What the arguments after the name of a command give; `waiting` is an option whose value comes
next. -/
def readCommand (place : Place) (g : Given) (waiting : Option OptionName) :
    List String → Option Given
  | [] => if waiting.isSome then none else some g
  | argument :: rest =>
    if isValue argument then
      match waiting with
      | some name => do readCommand place (← g.option name argument) none rest
      | none => do readCommand place (← g.withPath argument) none rest
    else if waiting.isSome then none
    else if argument = "--" then readPaths g rest
    else do
      let (g, waiting) ← readOption place g argument
      readCommand place g waiting rest

/-- What a command is asked to do. -/
def readRequest (name : String) (arguments : List String) : Option Request := do
  if name = "resolve" then
    let g ← readCommand .resolve .nothing none arguments
    return .resolve ⟨← g.path, g.format.getD .text, g.defaults, g.settings⟩
  else if name = "params" then
    let g ← readCommand .params .nothing none arguments
    return .params (← g.path)
  else none

/-- What the program is asked to do, with what options before a command have given. -/
def readProgram (g : Given) : List String → Option Request
  | [] => none
  | argument :: rest =>
    if isValue argument then readRequest argument rest
    else if argument = "--" then none
    else do
      let (g, _) ← readOption .program g argument
      if g.version then return .version else readProgram g rest

/-- What the program is asked to do; none if the arguments are not understood. -/
def Request.ofArguments (arguments : List String) : Option Request :=
  readProgram .nothing arguments

end GridSetup.Command
