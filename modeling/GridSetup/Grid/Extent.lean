import GridSetup.Defaults
import GridSetup.Grid.AxisSetting
import GridSetup.Hierarchy

/-!
# The extent of a grid

The extent is the number of points on each axis. Local sizes decide if all three are given and
positive; then the global sizes are not even read. Otherwise the global sizes decide, each with
its default. In both groups of keys a positive uniform size beats the sizes of the axes. The one
local block of the grid spans the whole, so global and local size agree and the bounds run from
zero to one less than the size. An axis of the grid needs at least one point.
-/

namespace GridSetup

/-- Which group of keys decides the extent. -/
inductive SizeSource where
  | localKeys
  | globalKeys
  deriving Repr, DecidableEq

/-- The word of a group of keys. -/
def SizeSource.word : SizeSource → String
  | .localKeys => "local"
  | .globalKeys => "global"

/-- The number of points on each axis, and the keys that decided it. -/
structure Extent where
  source : SizeSource
  sizes : List Int32
  deriving Repr, DecidableEq

namespace Extent

/-- The three local sizes if all are given and positive. -/
def readLocal (p : Parameters) : Except Error (Option (PerAxis Int32)) := do
  let x ← p.get? .int32 Key.localSize.axes.x
  let y ← p.get? .int32 Key.localSize.axes.y
  let z ← p.get? .int32 Key.localSize.axes.z
  let uniform ← p.get? .int32 Key.localSize.uniform
  let (x, y, z) := match uniform with
    | some n => if 0 < n then (some n, some n, some n) else (x, y, z)
    | none => (x, y, z)
  match x, y, z with
  | some x, some y, some z => return if 0 < x ∧ 0 < y ∧ 0 < z then some ⟨x, y, z⟩ else none
  | _, _, _ => return none

/-- The global sizes. -/
def readGlobal (d : Defaults) (p : Parameters) : Except Error (PerAxis Int32) :=
  p.getAxes .int32 Key.globalSize d.globalSize fun n => decide (0 < n)

/-- The sizes of all three axes and the keys that decide them. -/
def readSizes (d : Defaults) (p : Parameters) : Except Error (SizeSource × PerAxis Int32) := do
  match ← readLocal p with
  | some sizes => return (.localKeys, sizes)
  | none => return (.globalKeys, ← readGlobal d p)

/-- The first axis, counted on from `axis`, that has no point. -/
def firstEmpty (axis : Nat) : List Int32 → Option (Nat × Int32)
  | [] => none
  | n :: rest => if n < 1 then some (axis, n) else firstEmpty (axis + 1) rest

/-- The extent of a grid with the given number of axes. -/
def read (d : Defaults) (p : Parameters) (dimension : Nat) : Except Error Extent := do
  let (source, sizes) ← readSizes d p
  let sizes := sizes.toList.take dimension
  match firstEmpty 0 sizes with
  | some (axis, size) => throw (.nonPositiveSize axis size)
  | none => return ⟨source, sizes⟩

end Extent

/-- The hierarchy with the sizes and bounds of an extent. -/
def Hierarchy.withExtent (h : Hierarchy) (e : Extent) : Hierarchy :=
  { h with
    globalSize := e.sizes
    localSize := e.sizes
    lowerBound := e.sizes.map fun _ => 0
    upperBound := e.sizes.map (· - 1) }

end GridSetup
