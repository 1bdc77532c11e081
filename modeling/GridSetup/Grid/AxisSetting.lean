import GridSetup.Parameter.Key
import GridSetup.Parameters

/-!
# Settings of every axis

A setting that every axis has can be given for each axis and for all at once. The axis keys are
read first, in the order x, y, z, and then the uniform key. A uniform value that is accepted
replaces the values of all three axes; one that is not accepted changes nothing.
-/

namespace GridSetup

/-- The values that the keys of an axis setting give, with a default for each axis. -/
def Parameters.getAxes (p : Parameters) (t : ValueType) (keys : Key.AxisKeys)
    (default : PerAxis t.Carrier) (accept : t.Carrier → Bool) :
    Except Error (PerAxis t.Carrier) := do
  let x ← p.getD t keys.axes.x default.x
  let y ← p.getD t keys.axes.y default.y
  let z ← p.getD t keys.axes.z default.z
  match ← p.get? t keys.uniform with
  | some uniform => return if accept uniform then .all uniform else ⟨x, y, z⟩
  | none => return ⟨x, y, z⟩

end GridSetup
