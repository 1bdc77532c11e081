import GridSetup.Defaults
import GridSetup.Grid.AxisSetting
import GridSetup.Hierarchy

/-!
# The geometry of a grid

The grid type decides which further keys are read and how spacing and origin follow from them: a
unit box, a range of coordinates, or a spacing around the origin. A grid with given spacing is
centred. If an axis is to avoid the origin and has an odd number of points, the points are moved
up by half a cell, so that none lies on zero.

Afterwards the origin of each axis with a symmetry plane is replaced: the first point lies below
the plane, by half a cell if the axis avoids the origin and by a whole cell if it does not.
-/

namespace GridSetup

/-- The choices behind spacing and origin. -/
structure Geometry where
  gridType : GridType
  domain : Domain
  avoidOrigin : PerAxis Bool
  deriving Repr, DecidableEq

/-- The choices that parameters make. The uniform switch can only turn avoidance off. -/
def Geometry.read (d : Defaults) (p : Parameters) : Except Error Geometry := do
  let gridType ← p.getChoiceD Key.gridType d.gridType
  let domain ← p.getChoiceD Key.domain d.domain
  let avoidOrigin ← p.getAxes .flag Key.avoidOrigin d.avoidOrigin fun avoid => !avoid
  return ⟨gridType, domain, avoidOrigin⟩

/-- How the coordinates of the points are given. -/
inductive Coordinates where
  /-- A unit box with its corner at minus one half. -/
  | unitBox
  /-- The coordinates of the first and the last point. -/
  | range (first last : PerAxis Float)
  /-- The distance between points, with the grid centred on the origin. -/
  | spaced (spacing : PerAxis Float)

/-- The coordinates that the keys of a grid type give. -/
def Coordinates.read (d : Defaults) (p : Parameters) : GridType → Except Error Coordinates
  | .box => .ok .unitBox
  | .byRange => do
    let first ← p.getAxes .double Key.rangeMin d.rangeMin fun _ => true
    let last ← p.getAxes .double Key.rangeMax d.rangeMax fun _ => true
    return .range first last
  | .bySpacing => do
    return .spaced (← p.getAxes .double Key.spacing d.spacing fun _ => true)

/-- The points of one axis: their distance and the coordinate of the first. -/
structure AxisPoints where
  spacing : Float
  origin : Float

/-- A count of points or cells as a real number. -/
def ofCount (n : Int32) : Float :=
  Float.ofInt n.toInt

/-- The number of cells that a centred axis is balanced on: one less than the number of points,
and one less again to keep an odd number of points off the origin. -/
def centredCells (size : Int32) (avoidOrigin : Bool) : Int32 :=
  let shift := if avoidOrigin then size % 2 else 0
  size - 1 - shift

/-- The points of an axis with the given number of points. -/
def Coordinates.points (c : Coordinates) (axis : Nat) (size : Int32) (avoidOrigin : Bool) :
    AxisPoints :=
  match c with
  | .unitBox => ⟨1.0 / ofCount size, -0.5⟩
  | .range first last =>
    ⟨(last.onAxis axis - first.onAxis axis) / (ofCount size - 1.0), first.onAxis axis⟩
  | .spaced spacing =>
    let dx := spacing.onAxis axis
    ⟨dx, -0.5 * ofCount (centredCells size avoidOrigin) * dx⟩

/-- The points of an axis with a symmetry plane. -/
def AxisPoints.mirrored (points : AxisPoints) (avoidOrigin : Bool) : AxisPoints :=
  { points with origin := if avoidOrigin then -points.spacing / 2.0 else -points.spacing }

/-- The points of one axis of a grid. -/
def Geometry.points (g : Geometry) (c : Coordinates) (axis : Nat) (size : Int32) : AxisPoints :=
  let avoid := g.avoidOrigin.onAxis axis
  let points := c.points axis size avoid
  if g.domain.mirrors axis then points.mirrored avoid else points

/-- The points of all axes with the given numbers of points, the first axis being `axis`. -/
def Geometry.pointsFrom (g : Geometry) (c : Coordinates) (axis : Nat) :
    List Int32 → List AxisPoints
  | [] => []
  | size :: rest => g.points c axis size :: g.pointsFrom c (axis + 1) rest

/-- The hierarchy with the spacing and origin of a geometry. -/
def Hierarchy.withGeometry (h : Hierarchy) (g : Geometry) (c : Coordinates) : Hierarchy :=
  let points := g.pointsFrom c 0 h.globalSize
  { h with
    deltaSpace := points.map AxisPoints.spacing
    originSpace := points.map AxisPoints.origin }

end GridSetup
