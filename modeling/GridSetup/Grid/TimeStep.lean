import GridSetup.Defaults
import GridSetup.Hierarchy
import GridSetup.Parameter.Key
import GridSetup.Parameters

/-!
# The time step of a grid

The time step is given or follows from the spacing, by one of four methods. The factors of the two
Courant rules are read for every method, so a value that does not read is an error even where it
has no use. What only one method needs is read by that method alone; a given step and a wave speed
have no default.
-/

namespace GridSetup

/-- A real parameter that a time step method cannot do without. -/
def Parameters.getNeeded (p : Parameters) (method : TimeStepMethod) (key : String) :
    Except Error Float := do
  match ← p.get? .double key with
  | some value => return value
  | none => throw (.methodNeeds method key)

/-- The time step method. -/
def TimeStepMethod.read (d : Defaults) (p : Parameters) : Except Error TimeStepMethod :=
  p.getChoiceD Key.timeStepMethod d.method

/-- The time step of a grid by a method. -/
def TimeStepMethod.step (method : TimeStepMethod) (d : Defaults) (p : Parameters)
    (h : Hierarchy) : Except Error Float := do
  let stepFactor ← p.getD .double Key.stepFactor d.stepFactor
  let courantFactor ← p.getD .double Key.courantFactor d.courantFactor
  let root := h.dimension.toFloat.sqrt
  match method with
  | .given => p.getNeeded .given Key.timeStep
  | .courantStatic => return stepFactor * h.minSpacing
  | .courantSpeed =>
    let speed ← p.getNeeded .courantSpeed Key.waveSpeed
    return courantFactor * h.minSpacing / speed / root
  | .courantTime =>
    let time ← p.getD .double Key.crossingTime d.crossingTime
    return courantFactor * time / root

/-- The time step of a grid. -/
def timeStep (d : Defaults) (p : Parameters) (h : Hierarchy) : Except Error Float := do
  let method ← TimeStepMethod.read d p
  method.step d p h

end GridSetup
