import GridSetup.Proofs.Resolution.Checked

/-!
# The shape of every grid

Whatever text and whatever defaults go in, a resolution that comes out has one
of a few shapes. The dimension is that of the defaults, every list is as long as
the dimension asks for, and everything that no parameter changes still has the
value that the seed gave it. The sizes are counts that fit in 32 bits, and the
upper bounds are one less as integers, not as machine words: a size of at least
one has a predecessor.

`Resolution.Shaped` states this of one resolution. It is an invariant of the
parts taken one after the other, so its proof is the list of parts in
`resolve_eq_ok` and one look at what each of them writes.
-/

namespace GridSetup

/-- What is true of a grid that defaults and parameters resolve to. -/
structure Resolution.Shaped (d : Defaults) (p : Parameters) (r : Resolution) :
    Prop where
  dimension : r.hierarchy.dimension = d.dimension
  dimension_le : r.hierarchy.dimension ≤ 3
  wellFormed : r.hierarchy.WellFormed
  localSize : r.hierarchy.localSize = r.hierarchy.globalSize
  size_range : ∀ n ∈ r.hierarchy.globalSize,
    1 ≤ n.toInt ∧ n.toInt ≤ 0x7fffffff
  lowerBound : ∀ n ∈ r.hierarchy.lowerBound, n = 0
  upperBound : r.hierarchy.upperBound.map Int32.toInt =
    r.hierarchy.globalSize.map fun n => n.toInt - 1
  ghostZones : ∀ n ∈ r.hierarchy.ghostZones, n = 1
  levelFactor : ∀ n ∈ r.hierarchy.levelFactor, n = 1
  levelOffset : ∀ n ∈ r.hierarchy.levelOffset, n = 0
  levelOffsetDenominator : ∀ n ∈ r.hierarchy.levelOffsetDenominator, n = 1
  boundaryFlags : ∀ n ∈ r.hierarchy.boundaryFlags, n = 0
  iteration : r.hierarchy.iteration = 0
  time : r.hierarchy.time = 0.0
  identity : r.hierarchy.identity = ""
  lastIteration : r.lastIteration.isSome = p.contains Key.lastIteration
  parameters : r.parameters = p.normalize

/-! ## What the parts write -/

theorem Hierarchy.wellFormed_withExtent {h : Hierarchy} (hwf : h.WellFormed)
    {e : Extent} (he : e.sizes.length = h.dimension) :
    (h.withExtent e).WellFormed where
  dimension_pos := hwf.dimension_pos
  length_ints f := by
    have hmap : ∀ g : Int32 → Int32, (e.sizes.map g).length = h.dimension := by
      intro g
      rw [List.length_map, he]
    cases f with
    | globalSize => exact he
    | localSize => exact he
    | lowerBound => exact hmap _
    | upperBound => exact hmap _
    | boundaryFlags => exact hwf.length_ints .boundaryFlags
    | levelFactor => exact hwf.length_ints .levelFactor
    | levelOffset => exact hwf.length_ints .levelOffset
    | levelOffsetDenominator => exact hwf.length_ints .levelOffsetDenominator
    | ghostZones => exact hwf.length_ints .ghostZones
  length_reals f := by
    cases f with
    | deltaSpace => exact hwf.length_reals .deltaSpace
    | originSpace => exact hwf.length_reals .originSpace

theorem Hierarchy.wellFormed_withGeometry {h : Hierarchy} (hwf : h.WellFormed)
    (g : Geometry) (c : Coordinates) : (h.withGeometry g c).WellFormed where
  dimension_pos := hwf.dimension_pos
  length_ints f := by
    have hf := hwf.length_ints f
    cases f <;> exact hf
  length_reals f := by
    have hsize : h.globalSize.length = h.dimension :=
      hwf.length_ints .globalSize
    have hmap : ∀ f : AxisPoints → Float,
        ((g.pointsFrom c 0 h.globalSize).map f).length = h.dimension := by
      intro f
      rw [List.length_map, Geometry.length_pointsFrom, hsize]
    cases f with
    | deltaSpace => exact hmap _
    | originSpace => exact hmap _

theorem Hierarchy.wellFormed_withDeltaTime {h : Hierarchy} (hwf : h.WellFormed)
    (deltaTime : Float) : ({ h with deltaTime } : Hierarchy).WellFormed where
  dimension_pos := hwf.dimension_pos
  length_ints f := by
    have hf := hwf.length_ints f
    cases f <;> exact hf
  length_reals f := by
    have hf := hwf.length_reals f
    cases f <;> exact hf

theorem Parameters.contains_normalize (p : Parameters) (key : String) :
    p.normalize.contains key = p.contains key := by
  rw [normalize]
  split
  · rfl
  · rw [contains, contains, Table.contains, Table.contains,
      Table.get?_mapValues, Option.isSome_map]

/-- What is set reads as a value or not at all. -/
theorem Parameters.isSome_get? {p : Parameters} {t : ValueType} {key : String}
    {v : Option t.Carrier} (h : p.get? t key = .ok v) :
    v.isSome = p.contains key := by
  have hvalue : p.contains key = (p.value? key).isSome := rfl
  rw [get?] at h
  split at h
  · next text htext =>
      rw [hvalue, htext]
      cases hread : readValue t text with
      | error e =>
          rw [hread] at h
          cases h
      | ok x =>
          rw [hread] at h
          cases h
          rfl
  · next hnone =>
      rw [hvalue, hnone]
      cases h
      rfl

/-! ## The whole -/

theorem shaped_of_resolve {d : Defaults} {p : Parameters} {r : Resolution}
    (h : resolve d p = .ok r) : r.Shaped d p := by
  obtain ⟨start, last, e, g, c, deltaTime, hseed, hlast, he, -, -, -, rfl⟩ :=
    resolve_eq_ok.1 h
  obtain ⟨⟨hpos, hle⟩, rfl⟩ := Hierarchy.seed_eq_ok hseed
  obtain ⟨-, -, -, hsizes⟩ := Extent.read_eq_ok he
  have hlen := Extent.length_sizes he hle
  exact
    { dimension := rfl
      dimension_le := hle
      wellFormed := Hierarchy.wellFormed_withDeltaTime
        (Hierarchy.wellFormed_withGeometry
          (Hierarchy.wellFormed_withExtent
            (Checked.wellFormed_seeded hpos) hlen) g c) deltaTime
      localSize := rfl
      size_range := fun n hn => Checked.toInt_range (hsizes n hn)
      lowerBound := by
        intro n hn
        obtain ⟨m, -, rfl⟩ := List.mem_map.1 hn
        rfl
      upperBound := by
        -- taken one entry at a time, since the difference is exact only for a size
        show (e.sizes.map (· - 1)).map Int32.toInt =
          e.sizes.map fun n => n.toInt - 1
        rw [List.map_map]
        exact List.map_congr_left fun n hn =>
          Checked.toInt_sub_one (hsizes n hn)
      ghostZones := fun n hn => List.eq_of_mem_replicate hn
      levelFactor := fun n hn => List.eq_of_mem_replicate hn
      levelOffset := fun n hn => List.eq_of_mem_replicate hn
      levelOffsetDenominator := fun n hn => List.eq_of_mem_replicate hn
      boundaryFlags := fun n hn => List.eq_of_mem_replicate hn
      iteration := rfl
      time := rfl
      identity := rfl
      lastIteration := by
        rw [← Parameters.contains_normalize]
        exact Parameters.isSome_get? hlast
      parameters := rfl }

theorem Checked.lift_ne_fault {α : Type} (x : Except Error α) (f : Fault) :
    lift x ≠ .error (.fault f) := by
  cases x with
  | error e =>
      intro h
      cases h
  | ok a =>
      intro h
      cases h

/-- A text, and parameters from anywhere, resolve to a grid in shape or to an
error of the input. On the way no index is out of range, no list is copied over
one of another length, no integer leaves its range and no hierarchy is without
axes. -/
theorem resolution_shaped (d : Defaults) :
    (∀ source,
      Checked.resolveSource d source = Checked.lift (resolveSource d source) ∧
      (∀ f, Checked.resolveSource d source ≠ .error (.fault f)) ∧
      ∀ r, resolveSource d source = .ok r →
        ∃ p, Parameters.ofSource source = .ok p ∧ r.Shaped d p) ∧
    (∀ p,
      Checked.resolve d p = Checked.lift (resolve d p) ∧
      (∀ f, Checked.resolve d p ≠ .error (.fault f)) ∧
      ∀ r, resolve d p = .ok r → r.Shaped d p) := by
  constructor
  · intro source
    refine ⟨Checked.resolveSource_eq d source, ?_, ?_⟩
    · intro f
      rw [Checked.resolveSource_eq]
      exact Checked.lift_ne_fault _ f
    · intro r hr
      rw [resolveSource_eq] at hr
      obtain ⟨p, hp, hres⟩ := except_bind_eq_ok.1 hr
      exact ⟨p, hp, shaped_of_resolve hres⟩
  · intro p
    refine ⟨Checked.resolve_eq d p, ?_, fun r => shaped_of_resolve⟩
    intro f
    rw [Checked.resolve_eq]
    exact Checked.lift_ne_fault _ f

/-- A plane with the sizes of the defaults: the grid is there, and in shape. -/
theorem resolution_shaped_plane :
    ∃ r p,
      resolveSource { Defaults.standard with dimension := 2 }
        "! nothing is set\n" = .ok r ∧
      Parameters.ofSource "! nothing is set\n" = .ok p ∧
      r.Shaped { Defaults.standard with dimension := 2 } p := by
  obtain ⟨r, hr⟩ := exists_eq_ok (x := resolveSource
    { Defaults.standard with dimension := 2 } "! nothing is set\n")
    (by decide +kernel)
  obtain ⟨p, hp, hs⟩ := ((resolution_shaped
    { Defaults.standard with dimension := 2 }).1 _).2.2 r hr
  exact ⟨r, p, hr, hp, hs⟩

end GridSetup
