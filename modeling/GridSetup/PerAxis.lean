/-!
# Values for the three axes

Settings come in threes, one for each of the axes x, y and z, whatever the dimension of the grid
that is made from them: an axis at or beyond the dimension has a setting that nothing uses.
-/

namespace GridSetup

/-- One value for each of the axes x, y and z. -/
structure PerAxis (α : Type) where
  x : α
  y : α
  z : α
  deriving Repr, DecidableEq

namespace PerAxis

variable {α β : Type}

/-- The same value on every axis. -/
def all (a : α) : PerAxis α :=
  ⟨a, a, a⟩

/-- The values in the order of the axes. -/
def toList (v : PerAxis α) : List α :=
  [v.x, v.y, v.z]

/-- The value of an axis, counted from zero; beyond the third axis that of the third. -/
def onAxis (v : PerAxis α) : Nat → α
  | 0 => v.x
  | 1 => v.y
  | _ => v.z

/-- A function applied on every axis. -/
def map (f : α → β) (v : PerAxis α) : PerAxis β :=
  ⟨f v.x, f v.y, f v.z⟩

@[simp] theorem onAxis_all (a : α) (axis : Nat) : (all a).onAxis axis = a := by
  match axis with
  | 0 | 1 | _ + 2 => rfl

@[simp] theorem length_toList (v : PerAxis α) : v.toList.length = 3 := rfl

end PerAxis

end GridSetup
