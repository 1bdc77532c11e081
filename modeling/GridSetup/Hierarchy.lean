/-!
# The grid hierarchy

A hierarchy describes one grid: its dimension, iteration, time and time step, a name, and lists
with one entry per axis for sizes, bounds, spacing, origin, refinement and ghost zones. Boundary
flags come in pairs, the lower and the upper face of each axis. `Hierarchy.WellFormed` says that
every list has the length that the dimension asks for; every operation keeps it so.

Changing the dimension cuts each list or extends it with zeros. A hierarchy without axes is
refused.
-/

namespace GridSetup

/-- The lists of integers in a hierarchy. -/
inductive IntField where
  | globalSize
  | localSize
  | lowerBound
  | upperBound
  | boundaryFlags
  | levelFactor
  | levelOffset
  | levelOffsetDenominator
  | ghostZones
  deriving Repr, DecidableEq

/-- The lists of real numbers in a hierarchy. -/
inductive RealField where
  | deltaSpace
  | originSpace
  deriving Repr, DecidableEq

/-- The number of entries of a list in a given dimension: one for each axis, or for each face. -/
def IntField.length (dimension : Nat) : IntField → Nat
  | .boundaryFlags => 2 * dimension
  | _ => dimension

/-- The description of a grid. -/
structure Hierarchy where
  dimension : Nat
  iteration : UInt32
  time : Float
  deltaTime : Float
  identity : String
  globalSize : List Int32
  localSize : List Int32
  lowerBound : List Int32
  upperBound : List Int32
  deltaSpace : List Float
  originSpace : List Float
  boundaryFlags : List Int32
  levelFactor : List Int32
  levelOffset : List Int32
  levelOffsetDenominator : List Int32
  ghostZones : List Int32
  deriving BEq

/-- A hierarchy cannot be without axes. -/
inductive NoAxes where
  | noAxes
  deriving Repr, DecidableEq

/-- The wording of the refusal. -/
def NoAxes.message : NoAxes → String
  | .noAxes => "grid hierarchy needs at least one dimension"

namespace Hierarchy

/-- A list of integers. -/
def ints (h : Hierarchy) : IntField → List Int32
  | .globalSize => h.globalSize
  | .localSize => h.localSize
  | .lowerBound => h.lowerBound
  | .upperBound => h.upperBound
  | .boundaryFlags => h.boundaryFlags
  | .levelFactor => h.levelFactor
  | .levelOffset => h.levelOffset
  | .levelOffsetDenominator => h.levelOffsetDenominator
  | .ghostZones => h.ghostZones

/-- A list of real numbers. -/
def reals (h : Hierarchy) : RealField → List Float
  | .deltaSpace => h.deltaSpace
  | .originSpace => h.originSpace

/-- The hierarchy with one list of integers replaced. -/
def withInts (h : Hierarchy) (values : List Int32) : IntField → Hierarchy
  | .globalSize => { h with globalSize := values }
  | .localSize => { h with localSize := values }
  | .lowerBound => { h with lowerBound := values }
  | .upperBound => { h with upperBound := values }
  | .boundaryFlags => { h with boundaryFlags := values }
  | .levelFactor => { h with levelFactor := values }
  | .levelOffset => { h with levelOffset := values }
  | .levelOffsetDenominator => { h with levelOffsetDenominator := values }
  | .ghostZones => { h with ghostZones := values }

/-- The hierarchy with one list of real numbers replaced. -/
def withReals (h : Hierarchy) (values : List Float) : RealField → Hierarchy
  | .deltaSpace => { h with deltaSpace := values }
  | .originSpace => { h with originSpace := values }

/-- A hierarchy has an axis, and every list has the length that its dimension asks for. -/
structure WellFormed (h : Hierarchy) : Prop where
  dimension_pos : 1 ≤ h.dimension
  length_ints : ∀ f : IntField, (h.ints f).length = f.length h.dimension
  length_reals : ∀ f : RealField, (h.reals f).length = h.dimension

/-- The hierarchy of a dimension with zeros everywhere and no name. -/
def zeroed (dimension : Nat) : Hierarchy :=
  let zeros := List.replicate dimension (0 : Int32)
  let reals := List.replicate dimension (0 : Float)
  { dimension, iteration := 0, time := 0, deltaTime := 0, identity := "", globalSize := zeros,
    localSize := zeros, lowerBound := zeros, upperBound := zeros, deltaSpace := reals,
    originSpace := reals, boundaryFlags := List.replicate (2 * dimension) 0,
    levelFactor := zeros, levelOffset := zeros, levelOffsetDenominator := zeros,
    ghostZones := zeros }

/-- A new hierarchy with zeros everywhere and no name. -/
def new (dimension : Nat) : Except NoAxes Hierarchy :=
  if dimension = 0 then .error .noAxes else .ok (zeroed dimension)

/-- The hierarchy of three dimensions with zeros everywhere. -/
def default : Hierarchy :=
  zeroed 3

instance : Inhabited Hierarchy := ⟨default⟩

/-- The list cut or extended with `fill` to a length. -/
def resize {α : Type} (fill : α) (length : Nat) (values : List α) : List α :=
  values.take length ++ List.replicate (length - values.length) fill

/-- The hierarchy in another dimension: entries of the axes that both have are kept, and those of
new axes are zero. -/
def setDimension (h : Hierarchy) (dimension : Nat) : Except NoAxes Hierarchy :=
  if dimension = 0 then .error .noAxes
  else .ok
    { h with
      dimension
      globalSize := resize 0 dimension h.globalSize
      localSize := resize 0 dimension h.localSize
      lowerBound := resize 0 dimension h.lowerBound
      upperBound := resize 0 dimension h.upperBound
      deltaSpace := resize 0 dimension h.deltaSpace
      originSpace := resize 0 dimension h.originSpace
      boundaryFlags := resize 0 (2 * dimension) h.boundaryFlags
      levelFactor := resize 0 dimension h.levelFactor
      levelOffset := resize 0 dimension h.levelOffset
      levelOffsetDenominator := resize 0 dimension h.levelOffsetDenominator
      ghostZones := resize 0 dimension h.ghostZones }

/-- One change to a hierarchy. -/
inductive Edit where
  | setDimension (dimension : Nat)
  | setIteration (value : UInt32)
  | setTime (value : Float)
  | setDeltaTime (value : Float)
  | setIdentity (value : String)
  /-- Sets one entry of a list of integers; no entry if there is none at that index. -/
  | setInt (field : IntField) (index : Nat) (value : Int32)
  /-- Sets one entry of a list of real numbers; no entry if there is none at that index. -/
  | setReal (field : RealField) (index : Nat) (value : Float)
  /-- Sets every entry of a list of integers. -/
  | fillInts (field : IntField) (value : Int32)
  /-- Sets every entry of a list of real numbers. -/
  | fillReals (field : RealField) (value : Float)

/-- The hierarchy after a change. Only a dimension of zero is refused. -/
def apply (h : Hierarchy) : Edit → Except NoAxes Hierarchy
  | .setDimension dimension => h.setDimension dimension
  | .setIteration value => .ok { h with iteration := value }
  | .setTime value => .ok { h with time := value }
  | .setDeltaTime value => .ok { h with deltaTime := value }
  | .setIdentity value => .ok { h with identity := value }
  | .setInt field index value => .ok (h.withInts ((h.ints field).set index value) field)
  | .setReal field index value => .ok (h.withReals ((h.reals field).set index value) field)
  | .fillInts field value => .ok (h.withInts ((h.ints field).map fun _ => value) field)
  | .fillReals field value => .ok (h.withReals ((h.reals field).map fun _ => value) field)

/-- The lesser of two numbers; a number rather than no number, and the second of two equal ones, so
that of a positive and a negative zero the second is taken. -/
def lesser (a b : Float) : Float :=
  if b.isNaN then a else if a < b then a else b

/-- The least spacing of all axes; infinity if no axis has a number for its spacing. -/
def minSpacing (h : Hierarchy) : Float :=
  h.deltaSpace.foldl lesser (1.0 / 0.0)

end Hierarchy

end GridSetup
