import GridSetup.PerAxis

/-!
# Recognised keys

The keys that a grid is made from, in lower case, the form in which they are stored. Settings of
an axis have a key for each axis and one for all three together. Any other key is kept among the
parameters and has no effect.
-/

namespace GridSetup.Key

/-- The keys of a setting that every axis has. -/
structure AxisKeys where
  axes : PerAxis String
  /-- The key that sets all axes at once. -/
  uniform : String

def lastIteration : String := "cactus::cctk_itlast"

def globalSize : AxisKeys :=
  ⟨⟨"driver::global_nx", "driver::global_ny", "driver::global_nz"⟩, "driver::global_nsize"⟩

def localSize : AxisKeys :=
  ⟨⟨"driver::local_nx", "driver::local_ny", "driver::local_nz"⟩, "driver::local_nsize"⟩

def gridType : String := "grid::type"

def domain : String := "grid::domain"

def avoidOrigin : AxisKeys :=
  ⟨⟨"grid::avoid_originx", "grid::avoid_originy", "grid::avoid_originz"⟩, "grid::avoid_origin"⟩

def rangeMin : AxisKeys :=
  ⟨⟨"grid::xmin", "grid::ymin", "grid::zmin"⟩, "grid::xyzmin"⟩

def rangeMax : AxisKeys :=
  ⟨⟨"grid::xmax", "grid::ymax", "grid::zmax"⟩, "grid::xyzmax"⟩

def spacing : AxisKeys :=
  ⟨⟨"grid::dx", "grid::dy", "grid::dz"⟩, "grid::dxyz"⟩

def timeStepMethod : String := "time::timestep_method"

def timeStep : String := "time::timestep"

def stepFactor : String := "time::dtfac"

def courantFactor : String := "time::courant_fac"

def waveSpeed : String := "time::courant_wave_speed"

def crossingTime : String := "time::courant_min_time"

/-- The keys of a setting that every axis has, in the order in which they are read. -/
def AxisKeys.toList (k : AxisKeys) : List String :=
  k.axes.toList ++ [k.uniform]

/-- All recognised keys. -/
def recognised : List String :=
  [lastIteration] ++ globalSize.toList ++ localSize.toList ++ [gridType, domain]
    ++ avoidOrigin.toList ++ rangeMin.toList ++ rangeMax.toList ++ spacing.toList
    ++ [timeStepMethod, timeStep, stepFactor, courantFactor, waveSpeed, crossingTime]

end GridSetup.Key
