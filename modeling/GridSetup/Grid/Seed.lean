import GridSetup.Defaults
import GridSetup.Hierarchy

/-!
# The grid before any parameter is read

A grid starts with what no parameter changes: iteration and time zero, refinement factors and the
denominators of refinement offsets one, offsets and boundary flags zero, and one ghost zone on
each axis. It has between one and three axes, since parameters have keys for three.
-/

namespace GridSetup

/-- The largest number of axes. -/
def maxDimension : Nat := 3

/-- The hierarchy of a dimension with everything in it that no parameter changes. -/
def Hierarchy.seeded (dimension : Nat) : Hierarchy :=
  let ones := List.replicate dimension (1 : Int32)
  { Hierarchy.zeroed dimension with
    levelFactor := ones
    levelOffsetDenominator := ones
    ghostZones := ones }

/-- The hierarchy that resolution starts from. -/
def Hierarchy.seed (d : Defaults) : Except Error Hierarchy :=
  if 1 ≤ d.dimension ∧ d.dimension ≤ maxDimension then .ok (.seeded d.dimension)
  else .error (.unsupportedDimension d.dimension)

end GridSetup
