import GridSetup.Resolution

/-!
# Documents

A document is what the data formats write: scalars, lists, and fields in a fixed order. A
hierarchy, a resolution and a set of parameters each have one, and the formats need to know
nothing else about them.
-/

namespace GridSetup

/-- A tree of scalars, lists and named fields. -/
inductive Document where
  | null
  | integer (value : Int)
  | real (value : Float)
  | text (value : String)
  | list (items : List Document)
  | fields (entries : List (String × Document))

namespace Document

/-- A list of integers. -/
def ints (values : List Int32) : Document :=
  .list (values.map fun n => .integer n.toInt)

/-- A list of real numbers. -/
def reals (values : List Float) : Document :=
  .list (values.map .real)

/-- The parameters by key. -/
def ofParameters (p : Parameters) : Document :=
  .fields (p.entries.map fun e => (e.1, .text e.2))

/-- The fields of a hierarchy. -/
def ofHierarchy (h : Hierarchy) : Document :=
  .fields [
    ("dimension", .integer h.dimension),
    ("iteration", .integer h.iteration.toNat),
    ("time", .real h.time),
    ("delta_time", .real h.deltaTime),
    ("identity", .text h.identity),
    ("global_size", ints h.globalSize),
    ("local_size", ints h.localSize),
    ("lower_bound", ints h.lowerBound),
    ("upper_bound", ints h.upperBound),
    ("delta_space", reals h.deltaSpace),
    ("origin_space", reals h.originSpace),
    ("boundary_flags", ints h.boundaryFlags),
    ("level_factor", ints h.levelFactor),
    ("level_offset", ints h.levelOffset),
    ("level_offset_denominator", ints h.levelOffsetDenominator),
    ("ghost_zones", ints h.ghostZones)]

/-- The fields of a resolution. -/
def ofResolution (r : Resolution) : Document :=
  .fields [
    ("hierarchy", ofHierarchy r.hierarchy),
    ("max_iteration", match r.lastIteration with
      | some n => .integer n.toNat
      | none => .null),
    ("parameters", ofParameters r.parameters)]

end Document

end GridSetup
