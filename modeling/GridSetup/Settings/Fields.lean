import GridSetup.Error
import GridSetup.Settings.Setting

/-!
# Groups of settings

A group has fixed fields, each with a key and a conversion. It is read from a table, or from a list
that has the settings in the order of the fields.

The entries of a table are converted one after the other as they are met. Entries that belong to no
field are passed over, and what is missing is noticed at the end. So of two faults in one table the
one that is met first is reported. The items of a list are converted in order, and the first that
is missing ends the reading; items after the last field are passed over.
-/

namespace GridSetup

/-- A type whose members are the fields of a group of settings. -/
class Fields (F : Type) where
  /-- The fields in the order of the record. -/
  all : List F
  mem_all : ∀ f, f ∈ all
  nodup_all : all.Nodup
  /-- The key of a field, in lower case. -/
  key : F → String
  eq_of_key : ∀ f g, key f = key g → f = g
  Value : F → Type
  convert : (f : F) → Setting → Except SettingsError (Value f)

namespace Fields

/-- The values of all fields. -/
abbrev Record (F : Type) [Fields F] : Type :=
  (f : F) → Value f

/-- The values of the fields that were met so far. -/
abbrev Draft (F : Type) [Fields F] : Type :=
  (f : F) → Option (Value f)

section

variable {F : Type} [Fields F]

/-- A table with a setting for each field. -/
def table (setting : F → Setting) : Setting :=
  .table (all.map fun f => (key f, setting f))

/-- The field with a key. -/
def find? (k : String) : Option F :=
  all.find? fun f => key f == k

/-- A record of what was met, if nothing is missing. -/
def complete (d : Draft F) : Except SettingsError (Record F) :=
  if h : ∀ f ∈ all, (d f).isSome then .ok fun f => (d f).get (h f (mem_all f))
  else .error .wrongShape

variable [DecidableEq F]

/-- What was met and the value of one more field. -/
def Draft.fill (d : Draft F) (f : F) (value : Value f) : Draft F :=
  fun g => if h : f = g then some (h ▸ value) else d g

/-- An entry of a table is met. No field may be met twice. -/
def visit (d : Draft F) (entry : String × Setting) : Except SettingsError (Draft F) :=
  match find? entry.1 with
  | none => .ok d
  | some f =>
    match d f with
    | some _ => .error .wrongShape
    | none => (convert f entry.2).map (d.fill f)

/-- The items of a list are met, one for each field. -/
def visitItems (d : Draft F) : List F → List Setting → Except SettingsError (Draft F)
  | [], _ => .ok d
  | _ :: _, [] => .error .wrongShape
  | f :: fs, s :: rest => do visitItems (d.fill f (← convert f s)) fs rest

/-- The record that a setting is taken as. -/
def read : Setting → Except SettingsError (Record F)
  | .table entries => do complete (← entries.foldlM visit fun _ => none)
  | .list items => do complete (← visitItems (fun _ => none) all items)
  | _ => .error .wrongShape

end

end Fields

end GridSetup
