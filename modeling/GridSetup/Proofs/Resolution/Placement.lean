import GridSetup.Proofs.Resolution.Beyond
import GridSetup.Proofs.Resolution.Demands
import GridSetup.Proofs.Resolution.Shape

/-!
# Where the points of a grid lie

The spacing and the origin of an axis can be written down without a word about
steps. They follow from its number of points, counted as an integer, and from what
keys and defaults give for that axis: the type of the grid, whether there is a
symmetry plane below the axis, whether it avoids the origin, and the one or two
reals that the type asks for. `Placement` is this reference, one short function for
each notion.

Two things are then to be seen. The keys are looked up in a fixed order, and only
those of the type that was chosen (`Placement.demands`). And the count that an axis
is balanced on, which is taken in 32 bits, is the integer it should be, as the axis
has a point. Loops over axes do not come up here: that running them with every
access checked gives the same is known.
-/

namespace GridSetup

open Parameter

/-- The hierarchy with the spacing and origin that parameters give. -/
def Hierarchy.shape (d : Defaults) (p : Parameters) (h : Hierarchy) : Except Error Hierarchy := do
  let g ← Geometry.read d p
  let c ← Coordinates.read d p g.gridType
  return h.withGeometry g c

/-- Whether an axis has a symmetry plane at its lower end. -/
def Domain.hasPlane : Domain → Nat → Bool
  | .full, _ => false
  | .bitant, axis => axis == 2
  | .quadrant, axis => axis < 2
  | .octant, axis => axis < 3

def GridType.demands : GridType → List Demand
  | .box => []
  | .byRange => Key.rangeMin.demands .double ++ Key.rangeMax.demands .double
  | .bySpacing => Key.spacing.demands .double

/-! ## The reference -/

namespace Placement

section

variable (d : Defaults) (p : Parameters)

def gridType : GridType :=
  (p.chosen? Key.gridType).getD d.gridType

def domain : Domain :=
  (p.chosen? Key.domain).getD d.domain

/-- Whether an axis avoids the origin: not if the uniform key says no, and else as its own key says
or, without that, the default. -/
def avoids (axis : Nat) : Bool :=
  if p.given? .flag Key.avoidOrigin.uniform = some false then false
  else (p.given? .flag (Key.avoidOrigin.axes.onAxis axis)).getD (d.avoidOrigin.onAxis axis)

/-- The real of an axis: that of the uniform key, else of its own key, else the default. -/
def real (ks : Key.AxisKeys) (default : PerAxis Float) (axis : Nat) : Float :=
  match p.given? .double ks.uniform with
  | some u => u
  | none => (p.given? .double (ks.axes.onAxis axis)).getD (default.onAxis axis)

def first (axis : Nat) : Float :=
  real p Key.rangeMin d.rangeMin axis

def last (axis : Nat) : Float :=
  real p Key.rangeMax d.rangeMax axis

def spacing (axis : Nat) (n : Int) : Float :=
  match gridType d p with
  | .box => 1.0 / Float.ofInt n
  | .byRange => (last d p axis - first d p axis) / (Float.ofInt n - 1.0)
  | .bySpacing => real p Key.spacing d.spacing axis

/-- The number of points by which an axis that avoids the origin is out of balance. -/
def excess (axis : Nat) (n : Int) : Int :=
  if avoids d p axis then n % 2 else 0

/-- The coordinate of the first of `n` points, without symmetry. -/
def plainOrigin (axis : Nat) (n : Int) : Float :=
  match gridType d p with
  | .box => -0.5
  | .byRange => first d p axis
  | .bySpacing => -0.5 * Float.ofInt (n - 1 - excess d p axis n) * spacing d p axis n

/-- The coordinate of the first of `n` points: with a symmetry plane half a spacing below it if the
axis avoids the origin, and a whole one if it does not. -/
def origin (axis : Nat) (n : Int) : Float :=
  if (domain d p).hasPlane axis then
    if avoids d p axis then -spacing d p axis n / 2.0 else -spacing d p axis n
  else plainOrigin d p axis n

/-- The demands of spacing and origin, in their order. -/
def demands : List Demand :=
  ChoiceKind.gridType.demands ++ (ChoiceKind.domain.demands ++
    (Key.avoidOrigin.demands .flag ++ (gridType d p).demands))

end

end Placement

def Hierarchy.laidOut (d : Defaults) (p : Parameters) (h : Hierarchy) : Hierarchy :=
  { h with
    deltaSpace := h.globalSize.mapIdx fun axis n => Placement.spacing d p axis n.toInt
    originSpace := h.globalSize.mapIdx fun axis n => Placement.origin d p axis n.toInt }

/-! ## What is read -/

namespace Placement

section

variable (d : Defaults) (p : Parameters)

def geometry : Geometry :=
  ⟨gridType d p, domain d p, p.givenAxes .flag Key.avoidOrigin d.avoidOrigin fun avoid => !avoid⟩

def coordinates : GridType → Coordinates
  | .box => .unitBox
  | .byRange =>
      .range (p.givenAxes .double Key.rangeMin d.rangeMin fun _ => true)
        (p.givenAxes .double Key.rangeMax d.rangeMax fun _ => true)
  | .bySpacing => .spaced (p.givenAxes .double Key.spacing d.spacing fun _ => true)

theorem answers_geometry :
    Answers p (ChoiceKind.gridType.demands ++ (ChoiceKind.domain.demands ++
      Key.avoidOrigin.demands .flag)) (Geometry.read d p) (geometry d p) := by
  refine (answers_getChoiceD rfl p d.gridType).bind ?_
  refine (answers_getChoiceD rfl p d.domain).bind ?_
  exact (answers_getAxes p .flag Key.avoidOrigin d.avoidOrigin _).map

theorem answers_coordinates (t : GridType) :
    Answers p t.demands (Coordinates.read d p t) (coordinates d p t) := by
  cases t with
  | box => exact .ok p _
  | byRange =>
      refine (answers_getAxes p .double Key.rangeMin d.rangeMin _).bind ?_
      exact (answers_getAxes p .double Key.rangeMax d.rangeMax _).map
  | bySpacing => exact (answers_getAxes p .double Key.spacing d.spacing _).map

theorem answers_shape (h : Hierarchy) :
    Answers p (demands d p) (h.shape d p)
      (h.withGeometry (geometry d p) (coordinates d p (gridType d p))) := by
  have hreads : Answers p _ (h.shape d p) _ :=
    (answers_geometry d p).bind ((answers_coordinates d p (geometry d p).gridType).map
      (f := h.withGeometry (geometry d p)))
  rwa [List.append_assoc, List.append_assoc] at hreads

/-! ## What comes of it -/

theorem onAxis_avoidOrigin (axis : Nat) :
    (geometry d p).avoidOrigin.onAxis axis = avoids d p axis := by
  show (p.givenAxes .flag Key.avoidOrigin d.avoidOrigin _).onAxis axis = _
  rw [Parameters.onAxis_givenAxes, Parameters.givenOn, avoids]
  cases p.given? .flag Key.avoidOrigin.uniform with
  | none => rfl
  | some u => cases u <;> rfl

theorem onAxis_real (ks : Key.AxisKeys) (default : PerAxis Float) (axis : Nat) :
    (p.givenAxes .double ks default fun _ => true).onAxis axis = real p ks default axis := by
  rw [Parameters.onAxis_givenAxes, Parameters.givenOn, real]
  cases p.given? .double ks.uniform with
  | none => rfl
  | some u => rfl

end

theorem mirrors_eq_hasPlane (domain : Domain) (axis : Nat) :
    domain.mirrors axis = domain.hasPlane axis := by
  rw [Bool.eq_iff_iff, Domain.mirrors, List.contains_iff_mem]
  cases domain with
  | full => simp [Domain.mirroredAxes, Domain.hasPlane]
  | bitant => simp [Domain.mirroredAxes, Domain.hasPlane]
  | quadrant =>
      simp only [Domain.mirroredAxes, Domain.hasPlane, List.mem_cons, List.not_mem_nil, or_false,
        decide_eq_true_eq]
      omega
  | octant =>
      simp only [Domain.mirroredAxes, Domain.hasPlane, List.mem_cons, List.not_mem_nil, or_false,
        decide_eq_true_eq]
      omega

section

variable (d : Defaults) (p : Parameters) (axis : Nat)

theorem points_plain {n : Int32} (h : 1 ≤ n) :
    (coordinates d p (gridType d p)).points axis n (avoids d p axis) =
      ⟨spacing d p axis n.toInt, plainOrigin d p axis n.toInt⟩ := by
  rw [plainOrigin, spacing]
  cases gridType d p with
  | box => rfl
  | byRange =>
      have hfirst := onAxis_real p Key.rangeMin d.rangeMin axis
      have hlast := onAxis_real p Key.rangeMax d.rangeMax axis
      exact congrArg₂
        (fun lo hi => (⟨(hi - lo) / (Float.ofInt n.toInt - 1.0), lo⟩ : AxisPoints)) hfirst hlast
  | bySpacing =>
      have hspacing := onAxis_real p Key.spacing d.spacing axis
      have hcells := Checked.toInt_centredCells h (avoids d p axis)
      exact congrArg₂ (fun dx cells => (⟨dx, -0.5 * Float.ofInt cells * dx⟩ : AxisPoints))
        hspacing hcells

theorem points_eq {n : Int32} (h : 1 ≤ n) :
    (geometry d p).points (coordinates d p (gridType d p)) axis n =
      ⟨spacing d p axis n.toInt, origin d p axis n.toInt⟩ := by
  have hdomain : (geometry d p).domain.mirrors axis = (domain d p).hasPlane axis :=
    mirrors_eq_hasPlane _ axis
  rw [Geometry.points, onAxis_avoidOrigin, points_plain d p axis h, hdomain, origin]
  cases (domain d p).hasPlane axis with
  | false => rfl
  | true => rfl

end

end Placement

theorem Placement.pointsFrom_eq (d : Defaults) (p : Parameters) {sizes : List Int32}
    (hsizes : ∀ n ∈ sizes, 1 ≤ n) :
    (geometry d p).pointsFrom (coordinates d p (gridType d p)) 0 sizes =
      sizes.mapIdx fun axis n => ⟨spacing d p axis n.toInt, origin d p axis n.toInt⟩ := by
  apply List.ext_getElem?
  intro axis
  rw [Checked.getElem?_pointsFrom, List.getElem?_mapIdx, Nat.zero_add]
  exact Option.map_congr fun n hn => points_eq d p axis (hsizes n (List.mem_of_getElem? hn))

theorem Hierarchy.withGeometry_eq_laidOut (d : Defaults) (p : Parameters) {h : Hierarchy}
    (hsizes : ∀ n ∈ h.globalSize, 1 ≤ n) :
    h.withGeometry (Placement.geometry d p)
      (Placement.coordinates d p (Placement.gridType d p)) = h.laidOut d p := by
  rw [Hierarchy.withGeometry, Placement.pointsFrom_eq d p hsizes]
  simp only [List.mapIdx_eq_zipIdx_map, List.map_map]
  rw [laidOut, List.mapIdx_eq_zipIdx_map, List.mapIdx_eq_zipIdx_map]
  rfl

/-! ## The whole -/

theorem laidOut_of_resolve {d : Defaults} {p : Parameters} {r : Resolution}
    (h : resolve d p = .ok r) : r.hierarchy.laidOut d p.normalize = r.hierarchy := by
  obtain ⟨start, last, extent, g, c, deltaTime, -, -, hextent, hg, hc, -, rfl⟩ :=
    resolve_eq_ok.1 h
  obtain ⟨-, -, -, hsizes⟩ := Extent.read_eq_ok hextent
  have hshape : (start.withExtent extent).shape d p.normalize =
      .ok ((start.withExtent extent).withGeometry g c) := by
    rw [Hierarchy.shape, hg, except_ok_bind, hc]
    rfl
  have hanswers := Placement.answers_shape d p.normalize (start.withExtent extent)
  rw [Hierarchy.withGeometry_eq_laidOut d p.normalize hsizes] at hanswers
  obtain ⟨-, hlaidOut⟩ := hanswers.ok_iff.1 hshape
  rw [hlaidOut]
  rfl

/-- On a hierarchy with points on every axis the loops over axes run without a fault. They end in
the error of the first demand that is not met, or else in the hierarchy with the spacing and origin
of the reference and nothing else changed. -/
theorem placement_by_reference (d : Defaults) (p : Parameters) {h : Hierarchy}
    (hwf : h.WellFormed) (hd : h.dimension ≤ 3) (hsizes : ∀ n ∈ h.globalSize, 1 ≤ n) :
    Checked.withGeometry d p h = Checked.lift (h.shape d p) ∧
    (∀ e, h.shape d p = .error e ↔ FirstBroken p (Placement.demands d p) e) ∧
    ∀ h', h.shape d p = .ok h' ↔
      AllMet p (Placement.demands d p) ∧ h' = h.laidOut d p := by
  have hsized : Checked.Sized h :=
    { dimension_le := hd
      globalSize := hwf.length_ints .globalSize
      deltaSpace := hwf.length_reals .deltaSpace
      originSpace := hwf.length_reals .originSpace
      size_pos := hsizes }
  have hanswers := Placement.answers_shape d p h
  rw [Hierarchy.withGeometry_eq_laidOut d p hsizes] at hanswers
  exact ⟨Checked.withGeometry_eq hsized d p, fun e => hanswers.error_iff, fun h' => hanswers.ok_iff⟩

/-- A quarter of a plane with given spacing, one axis with an odd number of points and not kept off
the origin. -/
theorem placement_by_reference_quadrant :
    ((Hierarchy.seeded 2).withExtent ⟨.globalKeys, [10, 11]⟩).WellFormed ∧
      2 ≤ 3 ∧ (∀ n ∈ ([10, 11] : List Int32), 1 ≤ n) ∧
      ((Hierarchy.seeded 2).withExtent ⟨.globalKeys, [10, 11]⟩).shape .standard
          ((Parameters.normalize .empty).insertAll [("grid::type", "BySpacing"),
            ("grid::domain", "quadrant"), ("grid::avoid_originy", "no")]) =
        .ok (((Hierarchy.seeded 2).withExtent ⟨.globalKeys, [10, 11]⟩).laidOut .standard
          ((Parameters.normalize .empty).insertAll [("grid::type", "BySpacing"),
            ("grid::domain", "quadrant"), ("grid::avoid_originy", "no")])) := by
  have hwf : ((Hierarchy.seeded 2).withExtent ⟨.globalKeys, [10, 11]⟩).WellFormed :=
    Hierarchy.wellFormed_withExtent (Checked.wellFormed_seeded (by decide)) rfl
  have hsizes : ∀ n ∈ ([10, 11] : List Int32), 1 ≤ n := by
    intro n hn
    rcases List.mem_pair.1 hn with rfl | rfl
    · decide
    · decide
  have hok : (((Hierarchy.seeded 2).withExtent ⟨.globalKeys, [10, 11]⟩).shape .standard
      ((Parameters.normalize .empty).insertAll [("grid::type", "BySpacing"),
        ("grid::domain", "quadrant"), ("grid::avoid_originy", "no")])).isOk = true := by
    simp (disch := decide) only [Hierarchy.shape, Geometry.read, Parameters.getAxes,
      Parameters.getD, Parameters.getChoiceD, Parameters.insertAll, List.foldl_cons,
      List.foldl_nil, get?_insert]
    decide +kernel
  obtain ⟨h', hh'⟩ := exists_eq_ok hok
  obtain ⟨-, -, hshape⟩ := placement_by_reference .standard ((Parameters.normalize .empty).insertAll
    [("grid::type", "BySpacing"), ("grid::domain", "quadrant"), ("grid::avoid_originy", "no")])
    hwf (by decide) hsizes
  obtain ⟨-, rfl⟩ := (hshape h').1 hh'
  exact ⟨hwf, by decide, hsizes, hh'⟩

end GridSetup
