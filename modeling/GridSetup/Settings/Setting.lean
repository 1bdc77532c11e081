import GridSetup.Text.LetterCase

/-!
# Trees of settings

Default settings are a tree of tables, lists and plain values, laid together from several layers.
A later layer wins, and a table does not replace a table but is merged into it entry by entry.
Keys are compared in lower case.

A place in the tree is reached step by step: into a table by a key, or into a list by an index,
which counts from the end if it is negative. Assigning a value makes the way to its place: what
is no table where a table is needed gives way to an empty one, likewise for a list, and a list
that is too short is filled up with nulls.

Nothing fixes the order in which the entries of a table are gone through. `Shuffled` relates the
trees that one tree may be gone through as.
-/

namespace GridSetup

/-- A tree of settings. The entries of a table are in no particular order. -/
inductive Setting where
  | null
  | flag (value : Bool)
  | integer (value : Int)
  | real (value : Float)
  | text (value : String)
  | list (items : List Setting)
  | table (entries : List (String × Setting))
  deriving Inhabited

namespace Setting

/-- A key of a table in the form in which it is compared. -/
def foldKey (key : String) : String :=
  String.ofList (Text.lowercase key.toList)

/-- Two trees that differ in the order of the entries of their tables only. Tables that are items
of a list stay as they are, since nothing goes through them entry by entry. -/
inductive Shuffled : Setting → Setting → Prop where
  | refl (s : Setting) : Shuffled s s
  | trans {s t u : Setting} : Shuffled s t → Shuffled t u → Shuffled s u
  | swap (pre : List (String × Setting)) {e f : String × Setting}
      (post : List (String × Setting)) : e.1 ≠ f.1 →
      Shuffled (.table (pre ++ e :: f :: post)) (.table (pre ++ f :: e :: post))
  | entry (pre : List (String × Setting)) (key : String) {v w : Setting}
      (post : List (String × Setting)) : Shuffled v w →
      Shuffled (.table (pre ++ (key, v) :: post)) (.table (pre ++ (key, w) :: post))

/-- The entries of a table; a setting that is no table has none. -/
def entries : Setting → List (String × Setting)
  | .table entries => entries
  | _ => []

/-- The items of a list; a setting that is no list has none. -/
def items : Setting → List Setting
  | .list items => items
  | _ => []

/-- What an entry of a table is, if the setting is a table and has it. -/
def entry? (s : Setting) (key : String) : Option Setting :=
  s.entries.lookup key

/-- The entries with a value under a key, in its old place if it has one. -/
def replaceEntry (key : String) (value : Setting) :
    List (String × Setting) → List (String × Setting)
  | [] => [(key, value)]
  | (k, v) :: rest => if k = key then (key, value) :: rest else (k, v) :: replaceEntry key value rest

/-- The setting as a table with a value under a key. -/
def setEntry (s : Setting) (key : String) (value : Setting) : Setting :=
  .table (replaceEntry key value s.entries)

mutual

/-- The setting as a table with a value put under a key. A table is merged into what is there. -/
def put (s : Setting) (key : String) : Setting → Setting
  | .table entries =>
    let key := foldKey key
    s.setEntry key (putAll ((s.entry? key).getD (.table [])) entries)
  | value => s.setEntry (foldKey key) value

/-- The setting with every entry put into it as into a table. Without entries it stays as it is,
even if it is no table. -/
def putAll (s : Setting) : List (String × Setting) → Setting
  | [] => s
  | (key, value) :: rest => putAll (s.put key value) rest

end

/-- The list filled up with nulls so that it reaches an index, and that index from the start. A
negative index beyond the first item puts nulls in front. -/
def reach (items : List Setting) (index : Int) : List Setting × Nat :=
  let place := if index < 0 then index + items.length else index
  if place < 0 then (List.replicate place.natAbs .null ++ items, 0)
  else (items ++ List.replicate (place.toNat + 1 - items.length) .null, place.toNat)

/-- One step towards a place in a tree. -/
inductive Step where
  | entry (key : String)
  | item (index : Int)
  deriving Repr, DecidableEq

/-- The setting with a value put at the place that a first step and further steps lead to. -/
def assign (s : Setting) (value : Setting) : Step → List Step → Setting
  | .entry key, [] => s.put key value
  | .item index, [] =>
    let (items, i) := reach s.items index
    .list (items.set i value)
  | .entry key, next :: rest =>
    let key := foldKey key
    s.setEntry key (assign ((s.entry? key).getD .null) value next rest)
  | .item index, next :: rest =>
    let (items, i) := reach s.items index
    .list (items.set i (assign (items.getD i .null) value next rest))

end Setting

end GridSetup
