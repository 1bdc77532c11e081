import GridSetup.Proofs.Binary.Count
import GridSetup.Proofs.Resolution.Placement

/-!
# Ranges with a single point

In a grid that is given by ranges the spacing of an axis is its length divided by one
less than its number of points. The number of points comes from another part, whose
only bound is that there is one. So an axis may have a single point, and its length is
then divided by zero.

That this is the only way can be said of the divisor as it is computed, since a count
and what is left of it without one are exact in double precision.
-/

namespace GridSetup

open Parameter Parameters

theorem Placement.gridType_of_getChoiceD {d : Defaults} {p : Parameters} {t : GridType}
    (h : p.getChoiceD Key.gridType d.gridType = .ok t) : Placement.gridType d p = t :=
  ((answers_getChoiceD rfl p d.gridType).ok_iff.1 h).2.symm

section

variable {n : Int32} (h : 1 ≤ n)
include h

theorem ofCount_eq : ofCount n = Float.ofNat n.toInt.toNat := by
  have hrange := Checked.toInt_range h
  obtain ⟨k, hk⟩ := Int.eq_ofNat_of_zero_le (a := n.toInt) (by omega)
  rw [ofCount, hk]
  rfl

/-- The difference of a count of points and one is zero for a single point and for no more. -/
theorem ofCount_sub_one_beq_zero : (ofCount n - 1.0 == 0) = true ↔ n = 1 := by
  have hrange := Checked.toInt_range h
  have hone : (1 : Int32).toInt = 1 := by decide
  have hliteral : (1.0 : Float) = Float.ofNat 1 := by decide +kernel
  constructor
  · intro hzero
    by_contra hne
    have htwo : 2 ≤ n.toInt.toNat := by
      have hne' : n.toInt ≠ 1 := fun heq => hne (Int32.toInt_inj.1 (heq.trans hone.symm))
      omega
    rw [ofCount_eq h, hliteral, Binary.ofNat_sub_one htwo (by omega),
      Binary.ofNat_beq_zero (by omega) (by omega)] at hzero
    cases hzero
  · rintro rfl
    decide +kernel

end

theorem isFinite_div_ofCount_one (x : Float) : (x / (ofCount 1 - 1.0)).isFinite = false := by
  have hzero : ofCount 1 - 1.0 = 0 := by decide +kernel
  rw [hzero]
  exact Binary.isFinite_div_zero x

/-- In a grid by ranges every axis has a point, the divisor of its spacing is zero if and only if it
has no other, and the spacing is then not a finite number. -/
theorem range_divisor_zero_iff_single_point {d : Defaults} {source : String} {r : Resolution}
    (hr : resolveSource d source = .ok r)
    (hrange : r.parameters.getChoiceD Key.gridType d.gridType = .ok .byRange) {axis : Nat}
    (haxis : axis < r.hierarchy.dimension) :
    ∃ n : Int32, r.hierarchy.globalSize[axis]? = some n ∧ 1 ≤ n.toInt ∧
      r.hierarchy.deltaSpace[axis]? =
        some ((Placement.last d r.parameters axis - Placement.first d r.parameters axis) /
          (ofCount n - 1.0)) ∧
      ((ofCount n - 1.0 == 0) = true ↔ n = 1) ∧
      (n = 1 → ∀ dx, r.hierarchy.deltaSpace[axis]? = some dx → dx.isFinite = false) := by
  rw [resolveSource_eq] at hr
  obtain ⟨p, -, hp⟩ := except_bind_eq_ok.1 hr
  have hshaped := shaped_of_resolve hp
  have hparameters := hshaped.parameters
  have hlength : r.hierarchy.globalSize.length = r.hierarchy.dimension :=
    hshaped.wellFormed.length_ints .globalSize
  obtain ⟨n, hsize⟩ : ∃ n, r.hierarchy.globalSize[axis]? = some n :=
    ⟨_, List.getElem?_eq_getElem (by omega)⟩
  have hn := (hshaped.size_range n (List.mem_of_getElem? hsize)).1
  have hpos : 1 ≤ n := Int32.le_iff_toInt_le.2 hn
  have hspacing : r.hierarchy.deltaSpace[axis]? =
      some ((Placement.last d r.parameters axis - Placement.first d r.parameters axis) /
        (ofCount n - 1.0)) := by
    have htype := Placement.gridType_of_getChoiceD hrange
    rw [← laidOut_of_resolve hp, ← hparameters]
    show (r.hierarchy.globalSize.mapIdx _)[axis]? = _
    rw [List.getElem?_mapIdx, hsize, Option.map_some, Placement.spacing, htype]
    rfl
  refine ⟨n, hsize, hn, hspacing, ofCount_sub_one_beq_zero hpos, ?_⟩
  rintro rfl dx hdx
  rw [Option.some.inj (hdx.symm.trans hspacing)]
  exact isFinite_div_ofCount_one _

/-! ## A range with a single point -/

/-- A grid by ranges with one point along the first axis. -/
def singlePointSource : String :=
  "grid::type = byrange\ndriver::global_nx = 1\n"

def singlePoint : Parameters :=
  (Parameters.normalize .empty).insertAll
    [("grid::type", "byrange"), ("driver::global_nx", "1")]

theorem ofSource_singlePoint : (ofSource singlePointSource).map normalize = .ok singlePoint := by
  decide +kernel

theorem get?_singlePoint {key : String} (hkey : key ∈ Key.recognised) (t : ValueType) :
    singlePoint.get? t key =
      if key = "driver::global_nx" then (readValue t "1").map some else
        if key = "grid::type" then (readValue t "byrange").map some else .ok none := by
  rw [singlePoint, insertAll, List.foldl_cons, List.foldl_cons, List.foldl_nil,
    get?_insert (by decide) hkey rfl, get?_insert (by decide) hkey rfl]
  rfl

theorem resolve_singlePoint : (resolve .standard singlePoint).map
    (fun r => (r.hierarchy.dimension, r.hierarchy.globalSize)) = .ok (3, [1, 10, 10]) := by
  rw [resolve, show singlePoint.normalize = singlePoint from rfl]
  simp (disch := decide) only [readLastIteration, Extent.read, Extent.readSizes, Extent.readLocal,
    Extent.readGlobal, Geometry.read, timeStep, TimeStepMethod.read, TimeStepMethod.step, getAxes,
    getD, getChoiceD, get?_singlePoint]
  decide +kernel

theorem exists_resolveSource_singlePoint :
    ∃ r, resolveSource .standard singlePointSource = .ok r ∧
      r.parameters.getChoiceD Key.gridType Defaults.standard.gridType = .ok .byRange ∧
      r.hierarchy.dimension = 3 ∧ r.hierarchy.globalSize = [1, 10, 10] := by
  have hsource : resolveSource .standard singlePointSource = resolve .standard singlePoint :=
    calc resolveSource .standard singlePointSource
        = (ofSource singlePointSource).map normalize >>= resolve .standard := rfl
      _ = .ok singlePoint >>= resolve .standard := by rw [ofSource_singlePoint]
      _ = resolve .standard singlePoint := except_ok_bind singlePoint _
  obtain ⟨r, hr, hparameters, hdimension, hsizes⟩ :=
    exists_resolve_of_sizes rfl resolve_singlePoint
  refine ⟨r, hsource.trans hr, ?_, hdimension, hsizes⟩
  rw [hparameters, getChoiceD, get?_singlePoint (by decide)]
  decide +kernel

/-- With its single point the first axis has no finite spacing. -/
theorem range_divisor_zero_iff_single_point_first :
    ∃ r, resolveSource .standard singlePointSource = .ok r ∧
      r.parameters.getChoiceD Key.gridType Defaults.standard.gridType = .ok .byRange ∧
      0 < r.hierarchy.dimension ∧ r.hierarchy.globalSize[0]? = some 1 ∧
      (ofCount 1 - 1.0 == 0) = true ∧
      ∃ dx, r.hierarchy.deltaSpace[0]? = some dx ∧ dx.isFinite = false := by
  obtain ⟨r, hr, hrange, hdimension, hsizes⟩ := exists_resolveSource_singlePoint
  have haxis : 0 < r.hierarchy.dimension := by omega
  obtain ⟨n, hn, -, hspacing, hzero, hinfinite⟩ :=
    range_divisor_zero_iff_single_point hr hrange haxis
  have hone : n = 1 := by
    rw [hsizes] at hn
    exact (Option.some.inj hn).symm
  subst hone
  exact ⟨r, hr, hrange, haxis, hn, hzero.2 rfl, _, hspacing, hinfinite rfl _ hspacing⟩

theorem range_admits_single_point :
    ¬ ∀ (d : Defaults) (source : String) (r : Resolution), resolveSource d source = .ok r →
      r.parameters.getChoiceD Key.gridType d.gridType = .ok .byRange →
      ∀ axis < r.hierarchy.dimension, ∀ n, r.hierarchy.globalSize[axis]? = some n →
        2 ≤ n.toInt := by
  intro h
  obtain ⟨r, hr, hrange, hdimension, hsizes⟩ := exists_resolveSource_singlePoint
  have hfirst : r.hierarchy.globalSize[0]? = some 1 := by
    rw [hsizes]
    rfl
  have htwo := h _ _ r hr hrange 0 (by omega) 1 hfirst
  exact absurd htwo (by decide)

end GridSetup
