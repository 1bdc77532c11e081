/-!
# Files

What a run reads of the file system is a function: each path leads to text, to other bytes, to a
directory or to nothing. A `FileTree` gives one such function from a list of files below the
working directory. Its paths are followed component by component. An empty component or a single
point stays where it is and two points go up, but only from a directory, so that a path through a
file leads nowhere. Of what lies outside the working directory only the directories above it are
there.
-/

namespace GridSetup

/-- What a file holds. -/
inductive FileContent where
  | text (content : String)
  /-- Bytes that are no UTF-8 text. -/
  | binary
  deriving Repr, DecidableEq

/-- What some bytes hold. -/
def FileContent.ofBytes (bytes : ByteArray) : FileContent :=
  match String.fromUTF8? bytes with
  | some content => .text content
  | none => .binary

/-- What a path leads to. -/
inductive FileNode where
  | file (content : FileContent)
  | directory
  deriving Repr, DecidableEq

/-- What each path leads to, if it leads anywhere. -/
abbrev Files := String → Option FileNode

/-- What the file at a path holds; none if there is no file. -/
def Files.file? (files : Files) (path : String) : Option FileContent :=
  match files path with
  | some (.file content) => some content
  | _ => none

/-- Files and directories below the working directory, each under its components. A directory on
the way to another entry need not be listed. -/
structure FileTree where
  nodes : List (List String × FileNode)

namespace FileTree

/-- The components of a path, empty ones included. -/
def components (path : String) : List String :=
  (path.toList.splitOn '/').map String.ofList

/-- A tree from entries with paths that nowhere go up. -/
def ofList (entries : List (String × FileNode)) : FileTree :=
  ⟨entries.map fun e => ((components e.1).filter (· ∉ ["", "."]), e.2)⟩

/-- Where a path may lead: to a directory above the working directory, or to the components that
lead there from the working directory. -/
inductive Place where
  | above
  | below (components : List String)
  deriving Repr, DecidableEq

/-- What stands at a place. -/
def at? (t : FileTree) : Place → Option FileNode
  | .above => some .directory
  | .below place =>
    match t.nodes.lookup place with
    | some node => some node
    | none =>
      if place = [] ∨ t.nodes.any fun e => place.isPrefixOf e.1 then some .directory else none

/-- The place one component further; none if nothing is known to be there. -/
def Place.step (component : String) : Place → Option Place
  | .above => if component ∈ ["", ".", ".."] then some .above else none
  | .below place =>
    if component = "" ∨ component = "." then some (.below place)
    else if component = ".." then some (if place = [] then .above else .below place.dropLast)
    else some (.below (place ++ [component]))

/-- The place that components lead to from a place; none if the way goes through what is not a
directory. -/
def walk (t : FileTree) (place : Place) : List String → Option Place
  | [] => some place
  | component :: rest =>
    if t.at? place = some .directory then
      (place.step component).bind fun next => t.walk next rest
    else none

/-- What the paths of a tree lead to. The empty path leads nowhere, and a path from the root starts
above the working directory. -/
def files (t : FileTree) : Files := fun path =>
  if path = "" then none
  else
    let start := if path.startsWith "/" then Place.above else .below []
    (t.walk start (components path)).bind t.at?

end FileTree

/-! ## Neighbouring paths -/

/-- The components of a path without those at its end that stay where they are. -/
def pathStem (path : String) : List String :=
  ((FileTree.components path).reverse.dropWhile fun c => c = "" ∨ c = ".").reverse

/-- A path in the directory that holds what another path leads to. -/
def besidePath (path name : String) : String :=
  String.intercalate "/" ((pathStem path).dropLast ++ [name])

/-- A path with an extension added to its last component; none if that is not a name. -/
def withExtension (path extension : String) : Option String :=
  match (pathStem path).getLast? with
  | none => none
  | some ".." => none
  | some _ => some (String.intercalate "/" (pathStem path) ++ "." ++ extension)

end GridSetup
