import GridSetup.Settings.Setting
import GridSetup.Toml.Date

/-!
# TOML documents

A document becomes a tree of settings. While the document is read, a table remembers how it came
about, because that decides what may still be done to it. A table with a header of its own cannot
get a second one and cannot be reached by a dotted key. A table that a dotted key has made can only
be extended by dotted keys. A table that only lies on the way to another header may get a header of
its own once, and from then on it stands where that header stands. A value, an inline table among
them, is closed.

Dates are text in the tree. On the way there a date is a table with a single reserved key, and a
document may write that key itself: a table that starts with it stands for a date and for nothing
else it holds, and must have the text of a date under the key. A document that is itself a date is
refused, since it has no entries.
-/

namespace GridSetup.Toml

/-- How a table of a document came about. -/
inductive Origin where
  /-- It lies on the way to a table with a header. -/
  | implied
  /-- It lies on the way of a dotted key. -/
  | dotted
  /-- It has a header, or is the document itself or an inline table. -/
  | stated
  deriving Repr, DecidableEq

/-- What stands under a key while a document is read. -/
inductive Node where
  | value (setting : Setting)
  | table (origin : Origin) (entries : List (String × Node))
  /-- A list of tables with headers in double brackets, the last one first. -/
  | tables (items : List (List (String × Node)))

/-- The entries of a table while a document is read, in the order of their appearance. -/
abbrev Entries := List (String × Node)

mutual

/-- The setting that a node amounts to. -/
def Node.toSetting : Node → Setting
  | .value setting => setting
  | .table _ entries => .table (entriesToSettings entries)
  | .tables items => .list (itemsToSettings items)

/-- The settings that entries amount to. -/
def entriesToSettings : List (String × Node) → List (String × Setting)
  | [] => []
  | (key, node) :: rest => (key, node.toSetting) :: entriesToSettings rest

/-- The settings that tables amount to, from the last one back to the first. -/
def itemsToSettings : List (List (String × Node)) → List Setting
  | [] => []
  | entries :: rest => itemsToSettings rest ++ [.table (entriesToSettings entries)]

end

/-- The entries with a node under a key, in its old place if it has one. -/
def setNode (key : String) (node : Node) : Entries → Entries
  | [] => [(key, node)]
  | (k, n) :: rest => if k = key then (key, node) :: rest else (k, n) :: setNode key node rest

/-- The entries without a key. -/
def eraseNode (key : String) (entries : Entries) : Entries :=
  entries.filter fun e => e.1 ≠ key

/-- Changes the table that a path leads to, of the given origin. Tables that are missing on the way
are made, by a dotted key or by a header. The way leads into the last of several tables. -/
def editAt (byDottedKey : Bool) (edit : Origin → Entries → Option Entries) :
    List String → Origin → Entries → Option Entries
  | [], origin, entries => edit origin entries
  | key :: path, _, entries =>
    match entries.lookup key with
    | none => do
      let origin := if byDottedKey then .dotted else .implied
      let inner ← editAt byDottedKey edit path origin []
      return setNode key (.table origin inner) entries
    | some (.table origin inner) =>
      if byDottedKey ∧ origin = .stated then none
      else do
        let inner ← editAt byDottedKey edit path origin inner
        return setNode key (.table origin inner) entries
    | some (.tables (last :: earlier)) => do
      let last ← editAt byDottedKey edit path .stated last
      return setNode key (.tables (last :: earlier)) entries
    | some _ => none

/-- The entries with a value under a new key at the end of a dotted path. -/
def addValue (path : List String) (key : String) (value : Setting) (origin : Origin)
    (entries : Entries) : Option Entries :=
  let add (origin : Origin) (entries : Entries) : Option Entries :=
    if (path ≠ [] ∧ origin ≠ .dotted) ∨ (entries.lookup key).isSome then none
    else some (setNode key (.value value) entries)
  editAt true add path origin entries

/-- The document with a new table under a header. -/
def openTable (path : List String) (key : String) (document : Entries) : Option Entries :=
  let add (_ : Origin) (entries : Entries) : Option Entries :=
    match entries.lookup key with
    | none => some (setNode key (.table .stated []) entries)
    | some (.table .implied inner) => some (eraseNode key entries ++ [(key, .table .stated inner)])
    | some _ => none
  editAt false add path .stated document

/-- The document with one more table in a list of tables. -/
def openItem (path : List String) (key : String) (document : Entries) : Option Entries :=
  let add (_ : Origin) (entries : Entries) : Option Entries :=
    match entries.lookup key with
    | none => some (setNode key (.tables [[]]) entries)
    | some (.tables items) => some (setNode key (.tables ([] :: items)) entries)
    | some _ => none
  editAt false add path .stated document

/-! ## Dates -/

/-- The key of a table that stands for a date. -/
def dateKey : String := "$__toml_private_datetime"

/-- The table that stands for a date with the given text. -/
def dateTable (text : List Char) : Setting :=
  .table [(dateKey, .text (String.ofList text))]

/-- The date that the entries of a table stand for: what is under the first key, if that is the
reserved one. -/
def dateEntry? : List (String × Setting) → Option Setting
  | [] => none
  | (key, value) :: _ => if key = dateKey then some value else none

/-- A date as text; none if the setting is not the text of a date. -/
def dateText : Setting → Option Setting
  | .text s => if isDateText s.toList then some (.text s) else none
  | _ => none

mutual

/-- The setting with the tables that stand for dates replaced by their texts; none if one of them
has no date. -/
def datesAsText : Setting → Option Setting
  | .list items => (itemDatesAsText items).map .list
  | .table entries =>
    match dateEntry? entries with
    | some value => dateText value
    | none => (entryDatesAsText entries).map .table
  | s => some s

/-- The items with dates as text. -/
def itemDatesAsText : List Setting → Option (List Setting)
  | [] => some []
  | item :: rest => do return (← datesAsText item) :: (← itemDatesAsText rest)

/-- The entries with dates as text. -/
def entryDatesAsText : List (String × Setting) → Option (List (String × Setting))
  | [] => some []
  | (key, value) :: rest => do return (key, ← datesAsText value) :: (← entryDatesAsText rest)

end

/-! ## Values -/

/-- The items of a list up to its closing bracket. -/
def listItems (item : Reader Setting) : Nat → Reader (List Setting)
  | 0, _ => none
  | fuel + 1, cs =>
    match skipLines false cs with
    | ']' :: rest => some ([], rest)
    | rest => do
      let (value, rest) ← item rest
      match skipLines false rest with
      | ',' :: rest =>
        let (values, rest) ← listItems item fuel rest
        return (value :: values, rest)
      | ']' :: rest => some ([value], rest)
      | _ => none

/-- A key, an equals sign and a value. -/
def keyValue (bound : Nat) (value : Reader Setting) :
    Reader (List String × String × Setting) := fun cs => do
  let ((last, path), rest) ← key bound cs
  match rest with
  | '=' :: rest =>
    let (setting, rest) ← value (skipGap rest)
    return ((path, last, setting), rest)
  | _ => none

/-- The entries of an inline table up to its closing brace; `entries` come before them. -/
def inlineEntries (bound : Nat) (value : Reader Setting) : Nat → Entries → Reader Entries
  | 0, _, _ => none
  | fuel + 1, entries, cs => do
    let ((path, last, setting), rest) ← keyValue bound value cs
    let entries ← addValue path last setting .stated entries
    match skipGap rest with
    | ',' :: rest => inlineEntries bound value fuel entries rest
    | '\x7d' :: rest => some (entries, rest)
    | _ => none

/-- An inline table after its opening brace. -/
def inlineTable (bound : Nat) (value : Reader Setting) : Reader Entries := fun cs =>
  match skipGap cs with
  | '\x7d' :: rest => some ([], rest)
  | _ => inlineEntries bound value bound [] cs

/-- A value that is no list and no table. -/
def plainValue (bound : Nat) : Reader Setting := fun cs =>
  match string bound cs with
  | some (text, rest) => some (.text (String.ofList text), rest)
  | none =>
    match skipDateTime cs with
    | some rest => some (dateTable (cs.take (cs.length - rest.length)), rest)
    | none =>
      let token := cs.takeWhile isNumberChar
      let rest := cs.dropWhile isNumberChar
      if token = ['t', 'r', 'u', 'e'] then some (.flag true, rest)
      else if token = ['f', 'a', 'l', 's', 'e'] then some (.flag false, rest)
      else
        match integer? token, real? token with
        | some n, _ => some (.integer n, rest)
        | none, some x => some (.real x, rest)
        | none, none => none

/-- A value in which lists and inline tables are nested less than `depth` deep. -/
def value (bound : Nat) : (depth : Nat) → Reader Setting
  | 0, _ => none
  | 1, cs => plainValue bound cs
  | depth + 2, '[' :: cs =>
    (listItems (value bound (depth + 1)) bound cs).map fun (items, rest) => (.list items, rest)
  | depth + 2, '\x7b' :: cs =>
    (inlineTable bound (value bound (depth + 1)) cs).map fun (entries, rest) =>
      (.table (entriesToSettings entries), rest)
  | _ + 2, cs => plainValue bound cs

/-! ## Statements -/

/-- A document while it is read: all entries, and the path of the table that is open. -/
structure Progress where
  entries : Entries
  openPath : List String

/-- The document after a header at the start of the text, and the rest of the text. -/
def header (bound : Nat) (p : Progress) : List Char → Option (Progress × List Char)
  | '[' :: '[' :: cs => do
    let ((last, path), rest) ← key bound cs
    match rest with
    | ']' :: ']' :: rest => some (⟨← openItem path last p.entries, path ++ [last]⟩, rest)
    | _ => none
  | '[' :: cs => do
    let ((last, path), rest) ← key bound cs
    match rest with
    | ']' :: rest => some (⟨← openTable path last p.entries, path ++ [last]⟩, rest)
    | _ => none
  | _ => none

/-- The document after a key and value at the start of the text, and the rest of the text. -/
def assignment (bound : Nat) (p : Progress) (cs : List Char) :
    Option (Progress × List Char) := do
  let ((path, last, setting), rest) ← keyValue bound (value bound depthLimit) cs
  let entries ← editAt false (addValue path last setting) p.openPath .stated p.entries
  return (⟨entries, p.openPath⟩, rest)

/-- The document after all statements of a text. -/
def statements (bound : Nat) : Nat → Progress → List Char → Option Progress
  | 0, _, _ => none
  | fuel + 1, p, cs =>
    match skipGap cs with
    | [] => some p
    | '[' :: rest => do
      let (p, rest) ← header bound p ('[' :: rest)
      statements bound fuel p (← statementEnd rest)
    | c :: rest =>
      if c = '#' ∨ c = '\n' ∨ c = '\r' then do
        statements bound fuel p (← statementEnd (c :: rest))
      else do
        let (p, rest) ← assignment bound p (c :: rest)
        statements bound fuel p (← statementEnd rest)

/-- The text without a byte order mark at its start. -/
def dropMark : List Char → List Char
  | '\ufeff' :: cs => cs
  | cs => cs

/-- The top-level entries of a document; none if it is not well formed. -/
def read (text : String) : Option (List (String × Setting)) := do
  let cs := dropMark text.toList
  let bound := cs.length + 1
  let p ← statements bound bound ⟨[], []⟩ cs
  match ← datesAsText (.table (entriesToSettings p.entries)) with
  | .table entries => return entries
  | _ => none

end GridSetup.Toml
