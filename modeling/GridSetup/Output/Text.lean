import GridSetup.Decimal.Layout
import GridSetup.Resolution

/-!
# Plain text

A hierarchy as lines `name = value`, the names padded to sixteen columns and a list in square
brackets. The identity has a line only if it is not empty. A resolution adds the last iteration
and the active thorns if there are any.
-/

namespace GridSetup.PlainText

/-- A name with blanks up to sixteen columns; a longer one stays as it is. -/
def padName (name : List Char) : List Char :=
  name ++ List.replicate (16 - name.length) ' '

/-- A line for a value. -/
def line (name : String) (value : List Char) : List Char :=
  padName name.toList ++ ' ' :: '=' :: ' ' :: value ++ ['\n']

/-- Values with commas between them in square brackets. -/
def bracketed (values : List (List Char)) : List Char :=
  '[' :: [',', ' '].intercalate values ++ [']']

/-- A list of integers. -/
def writeInts (values : List Int32) : List Char :=
  bracketed (values.map fun n => Decimal.writeInt n.toInt)

/-- Real numbers never have an exponent, and a whole number is written as an integer. -/
def realStyle : Decimal.RealStyle :=
  { tie := .up, pointZero := false, positional := none, plusSign := false, notANumber := "NaN",
    infinite := "inf" }

/-- A real number. -/
def writeReal (x : Float) : List Char :=
  realStyle.write x

/-- A list of real numbers. -/
def writeReals (values : List Float) : List Char :=
  bracketed (values.map writeReal)

/-- The lines of a hierarchy. -/
def hierarchyChars (h : Hierarchy) : List Char :=
  line "dimension" (Decimal.writeNat h.dimension)
    ++ line "iteration" (Decimal.writeNat h.iteration.toNat)
    ++ line "time" (writeReal h.time)
    ++ line "delta_time" (writeReal h.deltaTime)
    ++ (if h.identity.isEmpty then [] else line "identity" h.identity.toList)
    ++ line "global_size" (writeInts h.globalSize)
    ++ line "local_size" (writeInts h.localSize)
    ++ line "lower_bound" (writeInts h.lowerBound)
    ++ line "upper_bound" (writeInts h.upperBound)
    ++ line "delta_space" (writeReals h.deltaSpace)
    ++ line "origin_space" (writeReals h.originSpace)
    ++ line "level_factor" (writeInts h.levelFactor)
    ++ line "level_offset" (writeInts h.levelOffset)
    ++ line "level_offset_denom" (writeInts h.levelOffsetDenominator)
    ++ line "ghost_zones" (writeInts h.ghostZones)
    ++ line "boundary_flags" (writeInts h.boundaryFlags)

/-- A hierarchy as text. -/
def ofHierarchy (h : Hierarchy) : String :=
  String.ofList (hierarchyChars h)

/-- A resolution as text. -/
def ofResolution (r : Resolution) : String :=
  let last := match r.lastIteration with
    | some n => line "max_iteration" (Decimal.writeNat n.toNat)
    | none => []
  let thorns := match r.parameters.activeThorns with
    | [] => []
    | names => line "active_thorns" ([' '].intercalate (names.map String.toList))
  String.ofList (hierarchyChars r.hierarchy ++ last ++ thorns)

/-- Parameters as lines `key = value`, in the order of the keys. -/
def ofParameters (p : Parameters) : String :=
  String.ofList (p.entries.flatMap fun e =>
    e.1.toList ++ ' ' :: '=' :: ' ' :: e.2.toList ++ ['\n'])

end GridSetup.PlainText
