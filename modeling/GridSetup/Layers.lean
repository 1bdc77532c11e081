import GridSetup.Defaults
import GridSetup.Files
import GridSetup.Settings.Path
import GridSetup.Toml.Document

/-!
# Layers of defaults

Defaults are laid together from the built-in record, then settings files in the order in which
they are named, then overrides of single settings. An override beats every file, wherever in the
list it was given; an override with the key of an earlier one replaces it. A file may be required
or optional, and a file that is not found under its name is looked for with the extension `toml`
added. An optional file that cannot be read counts as absent, but one that can be read must be
well formed.

Tables are hash maps on the way: those of a file while it is laid, those of the value of an override
while it is put in place, the table of the overrides itself, and the finished tree while it is taken
as a record. The order in which each is gone through is not fixed by anything. It is an argument
here, a `TableOrder`, and what is built may depend on it: keys of one file that differ in case only
meet, and of two faults in the tree the one met first is reported.
-/

namespace GridSetup

/-- One call for a layer of defaults. -/
inductive Layer where
  /-- A settings file; an optional one may be absent. -/
  | file (path : String) (required : Bool)
  /-- A value for the setting that a key leads to. -/
  | override (key : String) (value : Setting)

namespace Layer

/-- The name of the settings file that is looked for beside a parameter file. -/
def siblingName : String := "pargrid.toml"

/-- The optional settings file in the directory of a parameter file. -/
def beside (parameterFile : String) : Layer :=
  .file (besidePath parameterFile siblingName) false

end Layer

/-- What the calls amount to before any file is read. -/
structure Layers where
  /-- Paths of files and whether they are required, in order. -/
  files : List (String × Bool)
  overrides : List (Setting.Path × Setting)

namespace Layers

/-- No layers above the built-in record. -/
def empty : Layers :=
  ⟨[], []⟩

/-- The overrides with one more, in the place of one with the same path. -/
def addOverride (path : Setting.Path) (value : Setting) :
    List (Setting.Path × Setting) → List (Setting.Path × Setting)
  | [] => [(path, value)]
  | (p, v) :: rest =>
    if p = path then (path, value) :: rest else (p, v) :: addOverride path value rest

/-- The layers with one more. -/
def add (l : Layers) : Layer → Except SettingsError Layers
  | .file path required => .ok { l with files := l.files ++ [(path, required)] }
  | .override key value =>
    match Setting.Path.read key with
    | some path => .ok { l with overrides := addOverride path value l.overrides }
    | none => .error (.malformedPath key)

/-- The layers of a list of calls. -/
def ofList (calls : List Layer) : Except SettingsError Layers :=
  calls.foldlM add empty

/-- What the settings file at a path holds, if need be with the extension added. -/
def locate (files : Files) (path : String) : Option FileContent :=
  match files.file? path with
  | some content => some content
  | none => (withExtension path "toml").bind files.file?

/-- The table that a settings file holds; none if the file is optional and counts as absent. -/
def readFile (files : Files) (path : String) (required : Bool) :
    Except SettingsError (Option Setting) :=
  match locate files path with
  | some (.text content) =>
    match Toml.read content with
    | some entries => .ok (some (.table entries))
    | none => .error (.malformedFile path)
  | some .binary => if required then .error (.notText path) else .ok none
  | none => if required then .error (.missingFile path) else .ok none

/-- The tables of the settings files that are there, in order. -/
def readFiles (files : Files) : List (String × Bool) → Except SettingsError (List Setting)
  | [] => .ok []
  | (path, required) :: rest => do
    let content ← readFile files path required
    return content.toList ++ (← readFiles files rest)

/-- A tree of settings with an entry of a file put into it. A key that reads as a path is taken as
one. -/
def layEntry (s : Setting) (entry : String × Setting) : Setting :=
  match Setting.Path.read entry.1 with
  | some path => s.assignAt path entry.2
  | none => s.put entry.1 entry.2

/-- A tree of settings with the table of a file laid over it. -/
def layTable (s content : Setting) : Setting :=
  content.entries.foldl layEntry s

/-- Where the tables of a tree are gone through entry by entry. -/
inductive Occasion where
  /-- The file with this number, counted from zero among those that are there, is laid. -/
  | file (number : Nat)
  /-- The override with this path is put in place. -/
  | override (path : Setting.Path)
  /-- The finished tree is taken as a record. -/
  | result

/-- An order in which tables are gone through. -/
structure TableOrder where
  /-- A tree with the entries of its tables as they are met. -/
  tree : Occasion → Setting → Setting
  tree_shuffled : ∀ occasion s, Setting.Shuffled s (tree occasion s)
  /-- The overrides as they are met. -/
  overrides : List (Setting.Path × Setting) → List (Setting.Path × Setting)
  overrides_perm : ∀ os, (overrides os).Perm os

/-- Everything in the order in which it was written. -/
def TableOrder.asWritten : TableOrder where
  tree _ s := s
  tree_shuffled _ s := .refl s
  overrides os := os
  overrides_perm os := .refl os

/-- A tree of settings with the tables of files laid over it, of which the first has a number. -/
def layTables (order : TableOrder) (number : Nat) (s : Setting) : List Setting → Setting
  | [] => s
  | content :: rest =>
    layTables order (number + 1) (layTable s (order.tree (.file number) content)) rest

/-- A tree of settings with the values of overrides put into it. -/
def layOverrides (order : TableOrder) (s : Setting) (overrides : List (Setting.Path × Setting)) :
    Setting :=
  (order.overrides overrides).foldl
    (fun s o => s.assignAt o.1 (order.tree (.override o.1) o.2)) s

/-- The tree of settings that the layers amount to, for the tables of the files. -/
def tree (l : Layers) (order : TableOrder) (contents : List Setting) : Setting :=
  layOverrides order (layTables order 0 Defaults.standard.toSetting contents) l.overrides

/-- The defaults that the layers amount to. -/
def build (l : Layers) (order : TableOrder) (files : Files) : Except SettingsError Defaults := do
  let contents ← readFiles files l.files
  Defaults.ofSetting (order.tree .result (l.tree order contents))

end Layers

namespace Defaults

/-- The defaults that a list of calls for layers amounts to under an order of the tables. -/
def ofLayersIn (order : Layers.TableOrder) (files : Files) (calls : List Layer) :
    Except Error Defaults :=
  match Layers.ofList calls with
  | .ok layers => (layers.build order files).mapError .badDefaults
  | .error e => .error (.badDefaults e)

/-- The defaults that a list of calls for layers amounts to, with everything gone through as it was
written. -/
def ofLayers (files : Files) (calls : List Layer) : Except Error Defaults :=
  ofLayersIn .asWritten files calls

end Defaults

end GridSetup
