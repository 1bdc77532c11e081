import GridSetup.Grid.Extent
import GridSetup.Grid.Geometry
import GridSetup.Grid.Seed
import GridSetup.Grid.TimeStep
import GridSetup.Layers

/-!
# From parameters to a grid

Resolution is a fixed sequence: values are tidied, the grid is seeded, the last iteration is read,
then the extent, the geometry and the time step. The first error ends it and nothing of the grid
is kept.

`resolve` takes parameters as they come and `resolveSource` takes the text of a parameter file.
`trace` runs the same sequence and reports what each part adds.
-/

namespace GridSetup

/-- What a parameter file resolves to. -/
structure Resolution where
  hierarchy : Hierarchy
  /-- The last iteration of the run, if one is set. -/
  lastIteration : Option UInt32
  /-- All parameters, tidied, those without effect included. -/
  parameters : Parameters

/-- The last iteration of the run, if one is set. -/
def readLastIteration (p : Parameters) : Except Error (Option UInt32) :=
  p.get? .nat32 Key.lastIteration

/-- The grid that parameters and defaults describe. -/
def resolve (d : Defaults) (p : Parameters) : Except Error Resolution := do
  let p := p.normalize
  let h ← Hierarchy.seed d
  let lastIteration ← readLastIteration p
  let extent ← Extent.read d p h.dimension
  let h := h.withExtent extent
  let geometry ← Geometry.read d p
  let coordinates ← Coordinates.read d p geometry.gridType
  let h := h.withGeometry geometry coordinates
  let deltaTime ← timeStep d p h
  return { hierarchy := { h with deltaTime }, lastIteration, parameters := p }

/-- The grid that the text of a parameter file and defaults describe. -/
def resolveSource (d : Defaults) (source : String) : Except Error Resolution := do
  resolve d (← Parameters.ofSourceNormalized source)

/-! ## Step by step -/

/-- What one part of a resolution adds. -/
inductive Progress where
  | normalized (p : Parameters)
  | seeded (h : Hierarchy)
  | lastIteration (n : Option UInt32)
  | extent (e : Extent) (h : Hierarchy)
  | geometry (g : Geometry) (h : Hierarchy)
  | timeStep (deltaTime : Float) (lastIteration : Option UInt32)

/-- What the parts of a resolution add, up to the first error, and that error if there is one. -/
def trace (d : Defaults) (p : Parameters) : List Progress × Option Error :=
  let p := p.normalize
  let steps := [Progress.normalized p]
  match Hierarchy.seed d with
  | .error e => (steps, some e)
  | .ok h =>
    let steps := steps ++ [.seeded h]
    match readLastIteration p with
    | .error e => (steps, some e)
    | .ok last =>
      let steps := steps ++ [.lastIteration last]
      match Extent.read d p h.dimension with
      | .error e => (steps, some e)
      | .ok extent =>
        let h := h.withExtent extent
        let steps := steps ++ [.extent extent h]
        match (do
          let g ← Geometry.read d p
          return (g, ← Coordinates.read d p g.gridType)) with
        | .error e => (steps, some e)
        | .ok (g, coordinates) =>
          let h := h.withGeometry g coordinates
          let steps := steps ++ [.geometry g h]
          match timeStep d p h with
          | .error e => (steps, some e)
          | .ok deltaTime => (steps ++ [.timeStep deltaTime last], none)

end GridSetup
