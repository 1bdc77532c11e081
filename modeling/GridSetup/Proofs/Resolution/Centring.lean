import GridSetup.Proofs.Binary.Count
import GridSetup.Proofs.Resolution.Placement

/-!
# Balance on a centred axis

A grid by spacing is laid out around zero. The origin of an axis is half a count of
cells below it, and everything about where the points lie is in that count: it is one
less than the number of points, and one less again if the axis avoids the origin and
the number is odd.

So an axis that avoids the origin is balanced on an odd count, whatever its number of
points, and zero falls between two points. An axis that does not is balanced on the
cells it has, and its points are mirror images of each other. Nothing is lost on the
way from a number of points to the first offset: both differences fit in 32 bits, and
half of the count is exact (`toRat?_half_centredCells`). Only the product with the
spacing is rounded.
-/

namespace GridSetup

open Parameter Parameters

/-! ## Offsets -/

/-- The offset of a grid point from zero, in spacings, on an axis balanced on so many cells. -/
def centredOffset (cells : Int) (i : Nat) : ℚ :=
  i - cells / 2

/-- An axis of `n` points none of which lies on zero. -/
structure OffOrigin (n cells : Int) : Prop where
  odd : Odd cells
  ne_zero : ∀ i : Nat, i < n → centredOffset cells i ≠ 0
  both_sides : 2 ≤ n → ∃ i j : Nat, i < n ∧ j < n ∧
    centredOffset cells i < 0 ∧ 0 < centredOffset cells j

/-- An axis of `n` points that are mirror images of each other. -/
structure Balanced (n cells : Int) : Prop where
  cells_eq : cells = n - 1
  mirror : ∀ i j : Nat, (i : Int) + j = n - 1 → centredOffset cells j = -centredOffset cells i
  zero_iff : (∃ i : Nat, i < n ∧ centredOffset cells i = 0) ↔ Odd n

/-- Twice the offset is an integer. -/
theorem centredOffset_eq (cells : Int) (i : Nat) :
    centredOffset cells i = ((2 * i - cells : Int) : ℚ) / 2 := by
  rw [centredOffset]
  push_cast
  ring

section

variable {cells : Int} {i : Nat}

theorem centredOffset_eq_zero_iff : centredOffset cells i = 0 ↔ 2 * i = cells := by
  rw [centredOffset_eq, div_eq_zero_iff, or_iff_left two_ne_zero, Int.cast_eq_zero, sub_eq_zero]

theorem centredOffset_neg_iff : centredOffset cells i < 0 ↔ 2 * i < cells := by
  rw [centredOffset_eq, div_lt_iff₀ two_pos, zero_mul, Int.cast_lt_zero, sub_neg]

theorem centredOffset_pos_iff : 0 < centredOffset cells i ↔ cells < 2 * i := by
  rw [centredOffset_eq, lt_div_iff₀ two_pos, zero_mul, Int.cast_pos, sub_pos]

end

theorem offOrigin_of_size (n : Int) : OffOrigin n (n - 1 - n % 2) where
  odd := by
    rw [Int.odd_iff]
    omega
  ne_zero := by
    intro i _ hzero
    rw [centredOffset_eq_zero_iff] at hzero
    omega
  both_sides := by
    intro htwo
    refine ⟨0, (n - 1).toNat, by omega, by omega, ?_, ?_⟩
    · rw [centredOffset_neg_iff]
      omega
    · rw [centredOffset_pos_iff]
      omega

theorem balanced_of_size {n : Int} (hn : 1 ≤ n) : Balanced n (n - 1) where
  cells_eq := rfl
  mirror := by
    intro i j hij
    have hsum : (i : ℚ) + j = (n - 1 : Int) := by exact_mod_cast hij
    rw [centredOffset, centredOffset, ← hsum]
    ring
  zero_iff := by
    simp only [centredOffset_eq_zero_iff]
    rw [Int.odd_iff]
    constructor
    · rintro ⟨i, -, hi⟩
      omega
    · intro hodd
      exact ⟨((n - 1) / 2).toNat, by omega, by omega⟩

/-! ## The count -/

/-- The cells that a centred axis is balanced on, with both differences checked. -/
def Checked.cells (size : Int32) (avoidOrigin : Bool) : Except Stop Int32 := do
  sub (← sub size 1) (if avoidOrigin then size % 2 else 0)

section

variable {n : Int32} (h : 1 ≤ n) (avoid : Bool)
include h

theorem Checked.cells_eq : Checked.cells n avoid = .ok (centredCells n avoid) := by
  rw [Checked.cells, Checked.sub_one h, except_ok_bind]
  exact Checked.sub_shift h avoid

theorem toRat?_half_centredCells : Binary.toRat? (-0.5 * ofCount (centredCells n avoid)) =
    some (centredOffset (centredCells n avoid).toInt 0) := by
  have hrange := Checked.toInt_range h
  have hcells := Checked.toInt_centredCells h avoid
  have hle : -1 ≤ (centredCells n avoid).toInt ∧ (centredCells n avoid).toInt ≤ 0x7fffffff := by
    rw [hcells]
    split <;> omega
  rw [ofCount, Binary.toRat?_half_ofInt hle.1 (by omega), centredOffset, Nat.cast_zero, zero_sub]

end

/-! ## Centred axes -/

/-- An axis of a hierarchy with `n` points at distance `dx`, laid out around zero with `c` cells to
balance. -/
structure Hierarchy.CentredOn (h : Hierarchy) (axis : Nat) (avoid : Bool) (n c : Int32)
    (dx : Float) : Prop where
  size : h.globalSize[axis]? = some n
  size_range : 1 ≤ n.toInt ∧ n.toInt ≤ 0x7fffffff
  spacing : h.deltaSpace[axis]? = some dx
  origin : h.originSpace[axis]? = some (-0.5 * ofCount c * dx)
  cells : Checked.cells n avoid = .ok c
  cells_eq : c.toInt = n.toInt - 1 - if avoid then n.toInt % 2 else 0
  /-- The factor of the spacing in the origin is the offset of the first point. -/
  half_exact : Binary.toRat? (-0.5 * ofCount c) = some (centredOffset c.toInt 0)
  offOrigin : avoid = true → OffOrigin n.toInt c.toInt
  balanced : avoid = false → Balanced n.toInt c.toInt

theorem Hierarchy.centredOn_of_size {h : Hierarchy} {axis : Nat} {n : Int32} (hn : 1 ≤ n)
    (avoid : Bool) {dx : Float} (hsize : h.globalSize[axis]? = some n)
    (hspacing : h.deltaSpace[axis]? = some dx)
    (horigin : h.originSpace[axis]? = some (-0.5 * ofCount (centredCells n avoid) * dx)) :
    h.CentredOn axis avoid n (centredCells n avoid) dx where
  size := hsize
  size_range := Checked.toInt_range hn
  spacing := hspacing
  origin := horigin
  cells := Checked.cells_eq hn avoid
  cells_eq := Checked.toInt_centredCells hn avoid
  half_exact := toRat?_half_centredCells hn avoid
  offOrigin := by
    rintro rfl
    rw [Checked.toInt_centredCells hn true]
    exact offOrigin_of_size n.toInt
  balanced := by
    rintro rfl
    have hcells : (centredCells n false).toInt = n.toInt - 1 := by
      rw [Checked.toInt_centredCells hn false]
      exact sub_zero _
    rw [hcells]
    exact balanced_of_size (Checked.toInt_range hn).1

theorem Placement.origin_bySpacing {d : Defaults} {p : Parameters} {axis : Nat} {n : Int32}
    (htype : (geometry d p).gridType = .bySpacing)
    (hmirrors : (geometry d p).domain.mirrors axis = false) (hn : 1 ≤ n) :
    origin d p axis n.toInt =
      -0.5 * ofCount (centredCells n (avoids d p axis)) * spacing d p axis n.toInt := by
  have hplane : (domain d p).hasPlane axis = false :=
    (mirrors_eq_hasPlane _ axis).symm.trans hmirrors
  have htype' : gridType d p = .bySpacing := htype
  rw [origin, hplane, ofCount, Checked.toInt_centredCells hn, plainOrigin, htype']
  rfl

theorem centredOn_of_resolve {d : Defaults} {p : Parameters} {r : Resolution}
    (h : resolve d p = .ok r) : ∃ g, Geometry.read d r.parameters = .ok g ∧
      (g.gridType = .bySpacing → ∀ axis < r.hierarchy.dimension, g.domain.mirrors axis = false →
        ∃ n c dx, r.hierarchy.CentredOn axis (g.avoidOrigin.onAxis axis) n c dx) := by
  have hshaped := shaped_of_resolve h
  have hlaid := laidOut_of_resolve h
  obtain ⟨-, -, -, g, -, -, -, -, -, hg, -⟩ := resolve_eq_ok.1 h
  rw [hshaped.parameters]
  refine ⟨g, hg, fun htype axis haxis hmirrors => ?_⟩
  obtain ⟨-, rfl⟩ := (Placement.answers_geometry d p.normalize).ok_iff.1 hg
  have hlength : r.hierarchy.globalSize.length = r.hierarchy.dimension :=
    hshaped.wellFormed.length_ints .globalSize
  obtain ⟨n, hsize⟩ : ∃ n, r.hierarchy.globalSize[axis]? = some n :=
    ⟨_, List.getElem?_eq_getElem (by omega)⟩
  have hn : 1 ≤ n :=
    Int32.le_iff_toInt_le.2 (hshaped.size_range n (List.mem_of_getElem? hsize)).1
  have hspacing : r.hierarchy.deltaSpace[axis]? =
      some (Placement.spacing d p.normalize axis n.toInt) := by
    rw [← hlaid]
    show (r.hierarchy.globalSize.mapIdx _)[axis]? = _
    rw [List.getElem?_mapIdx, hsize]
    rfl
  have horigin : r.hierarchy.originSpace[axis]? =
      some (Placement.origin d p.normalize axis n.toInt) := by
    rw [← hlaid]
    show (r.hierarchy.globalSize.mapIdx _)[axis]? = _
    rw [List.getElem?_mapIdx, hsize]
    rfl
  rw [Placement.origin_bySpacing htype hmirrors hn] at horigin
  rw [Placement.onAxis_avoidOrigin]
  exact ⟨n, _, _, Hierarchy.centredOn_of_size hn _ hsize hspacing horigin⟩

/-- In a grid by spacing each axis without a symmetry plane is laid out around zero. The cells that
it is balanced on are counted without overflow, whatever its number of points. -/
theorem centred_by_spacing :
    (∀ (n : Int32) (avoid : Bool), 1 ≤ n.toInt → ∃ c, Checked.cells n avoid = .ok c ∧
      c.toInt = n.toInt - 1 - if avoid then n.toInt % 2 else 0) ∧
    ∀ (d : Defaults) (r : Resolution),
      ((∃ source, resolveSource d source = .ok r) ∨ ∃ p, resolve d p = .ok r) →
      ∃ g, Geometry.read d r.parameters = .ok g ∧
        (g.gridType = .bySpacing → ∀ axis < r.hierarchy.dimension,
          g.domain.mirrors axis = false →
            ∃ n c dx, r.hierarchy.CentredOn axis (g.avoidOrigin.onAxis axis) n c dx) := by
  refine ⟨fun n avoid hn => ?_, fun d r h => ?_⟩
  · have hpos : 1 ≤ n := Int32.le_iff_toInt_le.2 hn
    exact ⟨_, Checked.cells_eq hpos avoid, Checked.toInt_centredCells hpos avoid⟩
  · rcases h with ⟨source, h⟩ | ⟨p, h⟩
    · rw [resolveSource_eq] at h
      obtain ⟨p, -, hp⟩ := except_bind_eq_ok.1 h
      exact centredOn_of_resolve hp
    · exact centredOn_of_resolve h

/-! ## A cube of three kinds of axes -/

/-- An axis of even size that avoids the origin, one of odd size that does, and one of odd size that
does not. -/
def centredKeys : Parameters :=
  (Parameters.normalize .empty).insertAll
    [("grid::type", "byspacing"), ("driver::global_ny", "11"), ("driver::global_nz", "11"),
      ("grid::avoid_originz", "0")]

theorem geometry_centred : Geometry.read .standard centredKeys =
    .ok ⟨.bySpacing, .full, ⟨true, true, false⟩⟩ := by
  simp (disch := decide) only [centredKeys, Geometry.read, getAxes, getD, getChoiceD, insertAll,
    List.foldl_cons, List.foldl_nil, get?_insert]
  decide +kernel

theorem resolve_centred : (resolve .standard centredKeys).map
    (fun r => (r.hierarchy.dimension, r.hierarchy.globalSize)) = .ok (3, [10, 11, 11]) := by
  rw [resolve, show centredKeys.normalize = centredKeys from rfl]
  simp (disch := decide) only [centredKeys, readLastIteration, Extent.read, Extent.readSizes,
    Extent.readLocal, Extent.readGlobal, Geometry.read, timeStep, TimeStepMethod.read,
    TimeStepMethod.step, getAxes, getD, getChoiceD, insertAll, List.foldl_cons, List.foldl_nil,
    get?_insert]
  decide +kernel

/-- The number of points and the switch of an axis give its cells. -/
theorem Hierarchy.CentredOn.eq_of_cells {h : Hierarchy} {axis : Nat} {avoid : Bool}
    {n c m k : Int32} {dx : Float} (hcentred : h.CentredOn axis avoid n c dx)
    (hsize : h.globalSize[axis]? = some m) (hcells : Checked.cells m avoid = .ok k) :
    h.CentredOn axis avoid m k dx := by
  obtain rfl := Option.some.inj (hcentred.size.symm.trans hsize)
  obtain rfl := Except.ok.inj (hcentred.cells.symm.trans hcells)
  exact hcentred

/-- Eleven points that avoid the origin are balanced on nine cells, as ten are, and on ten if they
do not. -/
theorem centred_by_spacing_parities :
    ∃ r dx dy dz, resolve .standard centredKeys = .ok r ∧
      r.hierarchy.CentredOn 0 true 10 9 dx ∧ r.hierarchy.CentredOn 1 true 11 9 dy ∧
      r.hierarchy.CentredOn 2 false 11 10 dz := by
  obtain ⟨r, hr, hparameters, hdimension, hsizes⟩ :=
    exists_resolve_of_sizes rfl resolve_centred
  obtain ⟨-, hresolved⟩ := centred_by_spacing
  obtain ⟨g, hg, hcentred⟩ := hresolved .standard r (Or.inr ⟨_, hr⟩)
  rw [hparameters, geometry_centred] at hg
  obtain rfl := Except.ok.inj hg
  rw [hdimension] at hcentred
  obtain ⟨_, _, dx, hx⟩ := hcentred rfl 0 (by decide) rfl
  obtain ⟨_, _, dy, hy⟩ := hcentred rfl 1 (by decide) rfl
  obtain ⟨_, _, dz, hz⟩ := hcentred rfl 2 (by decide) rfl
  exact ⟨r, dx, dy, dz, hr, hx.eq_of_cells (by rw [hsizes]; rfl) (by decide),
    hy.eq_of_cells (by rw [hsizes]; rfl) (by decide),
    hz.eq_of_cells (by rw [hsizes]; rfl) (by decide)⟩

end GridSetup
