import GridSetup.Settings.Conversion
import GridSetup.Settings.Fields

/-!
# Defaults

The values used wherever a parameter file is silent. They are one record, and `standard` is the
built-in one. As a tree of settings the record is the lowest layer; what the layers above leave of
that tree is read back into a record.

The tree has a number and three groups of settings, and is itself read as a group of these four.
-/

namespace GridSetup

/-- The values used wherever a parameter file is silent. -/
structure Defaults where
  dimension : Nat
  globalSize : PerAxis Int32
  gridType : GridType
  domain : Domain
  avoidOrigin : PerAxis Bool
  spacing : PerAxis Float
  rangeMin : PerAxis Float
  rangeMax : PerAxis Float
  method : TimeStepMethod
  stepFactor : Float
  courantFactor : Float
  crossingTime : Float

namespace Defaults

/-- The built-in defaults. -/
def standard : Defaults :=
  { dimension := 3
    globalSize := .all 10
    gridType := .box
    domain := .full
    avoidOrigin := .all true
    spacing := .all 0.3
    rangeMin := .all (-1.0)
    rangeMax := .all 1.0
    method := .courantStatic
    stepFactor := 0.0
    courantFactor := 0.9
    crossingTime := 0.0 }

/-- Three settings as a list. -/
def triple {α : Type} (f : α → Setting) (v : PerAxis α) : Setting :=
  .list (v.toList.map f)

/-- The fields of the decomposition. -/
inductive DecompositionField where
  | globalSize
  deriving DecidableEq

/-- The fields of the geometry. -/
inductive GeometryField where
  | gridType
  | domain
  | avoidOrigin
  | spacing
  | rangeMin
  | rangeMax
  deriving DecidableEq

/-- The fields of the time step. -/
inductive TimeField where
  | method
  | stepFactor
  | courantFactor
  | crossingTime
  deriving DecidableEq

/-- The fields of the whole record: a number and three groups. -/
inductive RootField where
  | dimension
  | decomposition
  | grid
  | time
  deriving DecidableEq

instance : Fields DecompositionField where
  all := [.globalSize]
  mem_all f := by cases f; decide
  nodup_all := by decide
  key
    | .globalSize => "global_size"
  eq_of_key f g := by cases f; cases g; decide
  Value
    | .globalSize => PerAxis Int32
  convert
    | .globalSize => Setting.toTriple Setting.toInt32

instance : Fields GeometryField where
  all := [.gridType, .domain, .avoidOrigin, .spacing, .rangeMin, .rangeMax]
  mem_all f := by cases f <;> decide
  nodup_all := by decide
  key
    | .gridType => "type"
    | .domain => "domain"
    | .avoidOrigin => "avoid_origin"
    | .spacing => "spacing"
    | .rangeMin => "min"
    | .rangeMax => "max"
  eq_of_key f g := by cases f <;> cases g <;> decide
  Value
    | .gridType => GridType
    | .domain => Domain
    | .avoidOrigin => PerAxis Bool
    | .spacing | .rangeMin | .rangeMax => PerAxis Float
  convert
    | .gridType | .domain => Setting.toChoice
    | .avoidOrigin => Setting.toTriple Setting.toFlag
    | .spacing | .rangeMin | .rangeMax => Setting.toTriple Setting.toReal

instance : Fields TimeField where
  all := [.method, .stepFactor, .courantFactor, .crossingTime]
  mem_all f := by cases f <;> decide
  nodup_all := by decide
  key
    | .method => "method"
    | .stepFactor => "dtfac"
    | .courantFactor => "courant_fac"
    | .crossingTime => "courant_min_time"
  eq_of_key f g := by cases f <;> cases g <;> decide
  Value
    | .method => TimeStepMethod
    | .stepFactor | .courantFactor | .crossingTime => Float
  convert
    | .method => Setting.toChoice
    | .stepFactor | .courantFactor | .crossingTime => Setting.toReal

instance : Fields RootField where
  all := [.dimension, .decomposition, .grid, .time]
  mem_all f := by cases f <;> decide
  nodup_all := by decide
  key
    | .dimension => "dimension"
    | .decomposition => "decomposition"
    | .grid => "grid"
    | .time => "time"
  eq_of_key f g := by cases f <;> cases g <;> decide
  Value
    | .dimension => Nat
    | .decomposition => Fields.Record DecompositionField
    | .grid => Fields.Record GeometryField
    | .time => Fields.Record TimeField
  convert
    | .dimension => Setting.toNat64
    | .decomposition | .grid | .time => Fields.read

/-- The defaults as a tree of settings. -/
def toSetting (d : Defaults) : Setting :=
  Fields.table (F := RootField) fun
    | .dimension => .integer d.dimension
    | .decomposition => Fields.table (F := DecompositionField) fun
      | .globalSize => triple (fun n => .integer n.toInt) d.globalSize
    | .grid => Fields.table (F := GeometryField) fun
      | .gridType => .text d.gridType.word
      | .domain => .text d.domain.word
      | .avoidOrigin => triple .flag d.avoidOrigin
      | .spacing => triple .real d.spacing
      | .rangeMin => triple .real d.rangeMin
      | .rangeMax => triple .real d.rangeMax
    | .time => Fields.table (F := TimeField) fun
      | .method => .text d.method.word
      | .stepFactor => .real d.stepFactor
      | .courantFactor => .real d.courantFactor
      | .crossingTime => .real d.crossingTime

/-- Defaults from the values of their fields. -/
def ofRecord (r : Fields.Record RootField) : Defaults :=
  let decomposition : Fields.Record DecompositionField := r .decomposition
  let grid : Fields.Record GeometryField := r .grid
  let time : Fields.Record TimeField := r .time
  { dimension := r .dimension
    globalSize := decomposition .globalSize
    gridType := grid .gridType
    domain := grid .domain
    avoidOrigin := grid .avoidOrigin
    spacing := grid .spacing
    rangeMin := grid .rangeMin
    rangeMax := grid .rangeMax
    method := time .method
    stepFactor := time .stepFactor
    courantFactor := time .courantFactor
    crossingTime := time .crossingTime }

/-- The defaults that a tree of settings holds. Settings that are not known are passed over. -/
def ofSetting (s : Setting) : Except SettingsError Defaults :=
  (Fields.read s).map ofRecord

end Defaults

end GridSetup
