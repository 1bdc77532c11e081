import GridSetup.Proofs.Resolution.Beyond
import GridSetup.Proofs.Resolution.Checked

/-!
# Every group of keys has its own fields

The recognised keys come in groups by the part before the colons, and the fields
of a hierarchy come in groups by the part of the resolution that writes them. One
hierarchy goes through all parts, so nothing in its type keeps a later part from
touching what an earlier one wrote. What does is that each part writes its fields
and leaves the rest, and that what it writes follows from the keys it reads and
the fields before it.

For two resolutions that both succeed this is read off `resolve_eq_ok`. The
domain needs two runs side by side, since a change of domain must not even change
the error. `Paired` relates their outcomes: related results, or related errors.
It passes from the parts of a sequence to the sequence, so only the one part that
looks at the domain has to be compared by hand.
-/

namespace GridSetup

open Parameter Parameters

/-! ## Two outcomes side by side -/

/-- Two outcomes with related results or related errors. -/
inductive Paired {α β : Type} (E : Error → Error → Prop) (R : α → β → Prop) :
    Except Error α → Except Error β → Prop where
  | ok {a : α} {b : β} : R a b → Paired E R (.ok a) (.ok b)
  | error {e e' : Error} : E e e' → Paired E R (.error e) (.error e')

section

variable {α β γ δ : Type} {E : Error → Error → Prop} {R : α → β → Prop} {S : γ → δ → Prop}

theorem Paired.refl (x : Except Error α) : Paired Eq Eq x x := by
  cases x with
  | error e => exact .error rfl
  | ok a => exact .ok rfl

theorem Paired.bind {x : Except Error α} {y : Except Error β} {f : α → Except Error γ}
    {g : β → Except Error δ} (h : Paired E R x y)
    (hfg : ∀ a b, x = .ok a → y = .ok b → R a b → Paired E S (f a) (g b)) :
    Paired E S (x >>= f) (y >>= g) := by
  cases h with
  | ok hR => exact hfg _ _ rfl rfl hR
  | error hE => exact .error hE

theorem Paired.of_map {f : α → γ} {g : β → δ} {x : Except Error α} {y : Except Error β}
    (h : Paired E S (x.map f) (y.map g)) : Paired E (fun a b => S (f a) (g b)) x y := by
  cases x with
  | error e =>
      cases y with
      | error e' =>
          cases h with
          | error hE => exact .error hE
      | ok b => cases h
  | ok a =>
      cases y with
      | error e' => cases h
      | ok b =>
          cases h with
          | ok hS => exact .ok hS

/-- A part that both sequences have in common, with what it gives. -/
theorem Paired.bind_same {x : Except Error α} {f : α → Except Error γ} {g : α → Except Error δ}
    (hfg : ∀ a, x = .ok a → Paired Eq S (f a) (g a)) : Paired Eq S (x >>= f) (x >>= g) := by
  refine (Paired.refl x).bind fun a b ha _ hab => ?_
  subst hab
  exact hfg a ha

end

/-! ## Groups of keys -/

/-- The recognised keys with a given part before the colons. -/
def Key.group (name : String) : List String :=
  recognised.filter fun key => (name ++ "::").toList.isPrefixOf key.toList

/-- The recognised keys but that of the domain. -/
def Key.exceptDomain : List String :=
  recognised.filter fun key => key ≠ domain

theorem subset_group {name : String} {keys : List String} (hkeys : keys ⊆ Key.recognised)
    (hname : ∀ key ∈ keys, (name ++ "::").toList.isPrefixOf key.toList) :
    keys ⊆ Key.group name :=
  fun key hkey => List.mem_filter.2 ⟨hkeys hkey, hname key hkey⟩

theorem extentKeys_subset : Extent.keys ⊆ Key.group "driver" :=
  subset_group (by decide +kernel) (by decide +kernel)

theorem geometryKeys_subset : Geometry.keys ⊆ Key.group "grid" :=
  subset_group (by decide +kernel) (by decide +kernel)

theorem gridTypeKeys_subset (t : GridType) : t.keys ⊆ Key.group "grid" := by
  cases t with
  | box | byRange | bySpacing => exact subset_group (by decide +kernel) (by decide +kernel)

theorem subset_exceptDomain {keys : List String} (hkeys : keys ⊆ Key.recognised)
    (hdomain : Key.domain ∉ keys) : keys ⊆ Key.exceptDomain := by
  intro key hkey
  have hne : key ≠ Key.domain := by
    rintro rfl
    exact hdomain hkey
  exact List.mem_filter.2 ⟨hkeys hkey, decide_eq_true hne⟩

/-- The recognised keys but those with a given part before the colons. -/
def Key.outside (name : String) : List String :=
  recognised.filter fun key => !(name ++ "::").toList.isPrefixOf key.toList

theorem subset_outside {name : String} {keys : List String} (hkeys : keys ⊆ Key.recognised)
    (hname : ∀ key ∈ keys, !(name ++ "::").toList.isPrefixOf key.toList) :
    keys ⊆ Key.outside name :=
  fun key hkey => List.mem_filter.2 ⟨hkeys hkey, hname key hkey⟩

theorem notMem_outside {name key : String}
    (h : (name ++ "::").toList.isPrefixOf key.toList = true) : key ∉ Key.outside name := by
  intro hkey
  have hname := (List.mem_filter.1 hkey).2
  rw [h] at hname
  cases hname

/-! ## Time keys that a method does not use -/

/-- The parts before the time step do not look at the keys of time. -/
theorem parts_eq_of_outside {p q : Parameters} (h : AgreeOn (Key.outside "time") p q)
    (d : Defaults) :
    readLastIteration q = readLastIteration p ∧ (∀ n, Extent.read d q n = Extent.read d p n) ∧
      Geometry.read d q = Geometry.read d p ∧
      ∀ t, Coordinates.read d q t = Coordinates.read d p t := by
  have hlast : readLastIteration q = readLastIteration p :=
    (readsOnly_readLastIteration.mono
      (subset_outside (by decide +kernel) (by decide +kernel)) p q h).symm
  have hextent (n : Nat) : Extent.read d q n = Extent.read d p n :=
    ((Extent.readsOnly_read d n).mono
      (subset_outside (by decide +kernel) (by decide +kernel)) p q h).symm
  have hgeometry : Geometry.read d q = Geometry.read d p :=
    ((Geometry.readsOnly_read d).mono
      (subset_outside (by decide +kernel) (by decide +kernel)) p q h).symm
  have hcoordinates (t : GridType) : Coordinates.read d q t = Coordinates.read d p t := by
    have hkeys : t.keys ⊆ Key.outside "time" := by
      cases t with
      | box | byRange | bySpacing =>
          exact subset_outside (by decide +kernel) (by decide +kernel)
    exact ((Coordinates.readsOnly_read d t).mono hkeys p q h).symm
  exact ⟨hlast, hextent, hgeometry, hcoordinates⟩

/-- The keys of time come in only through the method and its step. -/
theorem resolveGrid_eq_of_step {d : Defaults} {p q : Parameters} {method : TimeStepMethod}
    (h : AgreeOn (Key.outside "time") p q) (hp : TimeStepMethod.read d p = .ok method)
    (hq : TimeStepMethod.read d q = .ok method)
    (hstep : ∀ k, method.step d q k = method.step d p k) : resolveGrid d q = resolveGrid d p := by
  obtain ⟨hlast, hextent, hgeometry, hcoordinates⟩ := parts_eq_of_outside h d
  rw [resolveGrid, resolveGrid]
  simp only [hlast, hextent, hgeometry, hcoordinates, hp, hq, except_ok_bind, hstep]

/-- The recognised keys without those that only another time step method uses. -/
def TimeStepMethod.allKeys (method : TimeStepMethod) : List String :=
  Key.recognised.filter fun key =>
    key ∈ [Key.timeStep, Key.waveSpeed, Key.crossingTime] → key ∈ method.keys

theorem TimeStepMethod.subset_allKeys {method : TimeStepMethod} {keys : List String}
    (hkeys : keys ⊆ Key.recognised)
    (h : ∀ key ∈ keys, key ∉ [Key.timeStep, Key.waveSpeed, Key.crossingTime]) :
    keys ⊆ method.allKeys :=
  fun key hkey =>
    List.mem_filter.2 ⟨hkeys hkey, decide_eq_true fun htime => absurd htime (h key hkey)⟩

theorem TimeStepMethod.keys_subset_allKeys (method : TimeStepMethod) :
    method.keys ⊆ method.allKeys := by
  have hkeys : method.keys ⊆ Key.recognised := by cases method <;> decide +kernel
  exact fun key hkey => List.mem_filter.2 ⟨hkeys hkey, decide_eq_true fun _ => hkey⟩

theorem resolveGrid_eq_of_method {d : Defaults} {p q : Parameters} {method : TimeStepMethod}
    (hmethod : TimeStepMethod.read d p = .ok method) (h : AgreeOn method.allKeys p q) :
    resolveGrid d q = resolveGrid d p := by
  have houtside : Key.outside "time" ⊆ method.allKeys :=
    TimeStepMethod.subset_allKeys (List.filter_subset_self _) (by decide +kernel)
  have hread : TimeStepMethod.read d q = TimeStepMethod.read d p := by
    have hkeys : [Key.timeStepMethod] ⊆ method.allKeys :=
      TimeStepMethod.subset_allKeys (by decide +kernel) (by decide +kernel)
    exact (readsOnly_getChoiceD (hkeys List.mem_cons_self) d.method p q h).symm
  exact resolveGrid_eq_of_step (fun key hkey => h key (houtside hkey)) hmethod
    (hread.trans hmethod) fun k =>
      ((method.readsOnly_step d k).mono method.keys_subset_allKeys p q h).symm

/-! ## Two resolutions that succeed -/

section

variable {d : Defaults} {p q : Parameters} {r s : Resolution}

theorem hierarchy_eq_of_driver (hr : resolve d p = .ok r) (hs : resolve d q = .ok s)
    (h : AgreeOn (Key.group "driver") p.normalize q.normalize) :
    s.hierarchy =
      { r.hierarchy with
        deltaSpace := s.hierarchy.deltaSpace
        originSpace := s.hierarchy.originSpace
        deltaTime := s.hierarchy.deltaTime } := by
  obtain ⟨start, _, extent, _, _, _, hseed, -, hextent, -, -, -, rfl⟩ := resolve_eq_ok.1 hr
  obtain ⟨start', _, extent', _, _, _, hseed', -, hextent', -, -, -, rfl⟩ := resolve_eq_ok.1 hs
  rw [hseed] at hseed'
  cases hseed'
  have hsame := Extent.readsOnly_read d start.dimension _ _ fun key hkey =>
    h key (extentKeys_subset hkey)
  simp only [hextent, hextent', Except.ok.injEq] at hsame
  subst hsame
  rfl

theorem hierarchy_eq_of_driver_grid (hr : resolve d p = .ok r) (hs : resolve d q = .ok s)
    (hdriver : AgreeOn (Key.group "driver") p.normalize q.normalize)
    (hgrid : AgreeOn (Key.group "grid") p.normalize q.normalize) :
    s.hierarchy = { r.hierarchy with deltaTime := s.hierarchy.deltaTime } := by
  obtain ⟨start, _, extent, g, c, _, hseed, -, hextent, hg, hc, -, rfl⟩ := resolve_eq_ok.1 hr
  obtain ⟨start', _, extent', g', c', _, hseed', -, hextent', hg', hc', -, rfl⟩ :=
    resolve_eq_ok.1 hs
  rw [hseed] at hseed'
  cases hseed'
  have hsame := Extent.readsOnly_read d start.dimension _ _ fun key hkey =>
    hdriver key (extentKeys_subset hkey)
  simp only [hextent, hextent', Except.ok.injEq] at hsame
  subst hsame
  have hgeometry := Geometry.readsOnly_read d _ _ fun key hkey =>
    hgrid key (geometryKeys_subset hkey)
  rw [hg, hg', Except.ok.injEq] at hgeometry
  subst hgeometry
  have hcoordinates := Coordinates.readsOnly_read d g.gridType _ _ fun key hkey =>
    hgrid key (gridTypeKeys_subset _ hkey)
  simp only [hc, hc', Except.ok.injEq] at hcoordinates
  subst hcoordinates
  rfl

end

/-! ## Two domains -/

/-- A hierarchy with another domain: all fields are the same but the origins, and of these all but
those of the axes that one domain mirrors and the other does not. -/
structure Hierarchy.ApartAtPlanes (a b : Domain) (h h' : Hierarchy) : Prop where
  fields : h' = { h with originSpace := h'.originSpace }
  length_originSpace : h'.originSpace.length = h.originSpace.length
  originSpace : ∀ axis, a.mirrors axis = b.mirrors axis →
    h'.originSpace[axis]? = h.originSpace[axis]?

theorem Hierarchy.ApartAtPlanes.deltaSpace {a b : Domain} {h h' : Hierarchy}
    (hapart : h.ApartAtPlanes a b h') : h'.deltaSpace = h.deltaSpace := by
  rw [hapart.fields]

/-- Two outcomes are the same error, or have the same last iteration and hierarchies that differ at
the planes of two domains only. -/
def SameButPlanes (a b : Domain) : Except Error Resolution → Except Error Resolution → Prop :=
  Paired Eq fun r s =>
    s.lastIteration = r.lastIteration ∧ r.hierarchy.ApartAtPlanes a b s.hierarchy

section

variable {d : Defaults} {p q : Parameters} {a b : Domain}

/-- The time step sees the number of axes and their spacing, and nothing else of a hierarchy. -/
theorem TimeStepMethod.step_congr (method : TimeStepMethod) {h h' : Hierarchy}
    (hdimension : h.dimension = h'.dimension) (hspacing : h.deltaSpace = h'.deltaSpace) :
    method.step d p h = method.step d p h' := by
  rw [step, step, Hierarchy.minSpacing, Hierarchy.minSpacing, hdimension, hspacing]

theorem Geometry.spacing_points (g : Geometry) (c : Coordinates) (axis : Nat) (size : Int32) :
    (g.points c axis size).spacing = (c.points axis size (g.avoidOrigin.onAxis axis)).spacing := by
  rw [Geometry.points]
  split
  · rfl
  · rfl

theorem apartAtPlanes_withGeometry (h : Hierarchy) (g : Geometry) (c : Coordinates) (b : Domain) :
    (h.withGeometry g c).ApartAtPlanes g.domain b (h.withGeometry { g with domain := b } c) where
  fields := by
    have hspacing : (Geometry.pointsFrom { g with domain := b } c 0 h.globalSize).map
        AxisPoints.spacing = (g.pointsFrom c 0 h.globalSize).map AxisPoints.spacing := by
      apply List.ext_getElem?
      intro i
      simp only [List.getElem?_map, Checked.getElem?_pointsFrom, Option.map_map,
        Function.comp_def, Geometry.spacing_points]
    simp only [Hierarchy.withGeometry, hspacing]
  length_originSpace := by
    simp only [Hierarchy.withGeometry, List.length_map, Geometry.length_pointsFrom]
  originSpace axis hmirrors := by
    simp only [Hierarchy.withGeometry, List.getElem?_map, Checked.getElem?_pointsFrom,
      Geometry.points, Nat.zero_add, hmirrors]

theorem paired_geometry (h : AgreeOn Key.exceptDomain p q)
    (hp : p.getChoiceD Key.domain d.domain = .ok a) (hq : q.getChoiceD Key.domain d.domain = .ok b) :
    Paired Eq (fun g g' => g.domain = a ∧ g' = { g with domain := b }) (Geometry.read d p)
      (Geometry.read d q) := by
  have htype : q.getChoiceD Key.gridType d.gridType = p.getChoiceD Key.gridType d.gridType := by
    have hkeys : [Key.gridType] ⊆ Key.exceptDomain :=
      subset_exceptDomain (by decide +kernel) (by decide +kernel)
    exact (readsOnly_getChoiceD (hkeys List.mem_cons_self) d.gridType p q h).symm
  have havoid : q.getAxes .flag Key.avoidOrigin d.avoidOrigin (fun avoid => !avoid) =
      p.getAxes .flag Key.avoidOrigin d.avoidOrigin fun avoid => !avoid :=
    (readsOnly_getAxes .flag (subset_exceptDomain (by decide +kernel) (by decide +kernel))
      d.avoidOrigin _ p q h).symm
  rw [Geometry.read, Geometry.read, hp, hq, htype, havoid]
  refine Paired.bind_same fun gridType _ => ?_
  simp only [except_ok_bind]
  exact Paired.bind_same fun avoidOrigin _ => .ok ⟨rfl, rfl⟩

theorem paired_resolveGrid (h : AgreeOn Key.exceptDomain p q)
    (hp : p.getChoiceD Key.domain d.domain = .ok a) (hq : q.getChoiceD Key.domain d.domain = .ok b) :
    Paired Eq (fun r s => s.2 = r.2 ∧ Hierarchy.ApartAtPlanes a b r.1 s.1) (resolveGrid d p)
      (resolveGrid d q) := by
  have hlast : readLastIteration q = readLastIteration p :=
    (readsOnly_readLastIteration.mono
      (subset_exceptDomain (by decide +kernel) (by decide +kernel)) p q h).symm
  have hextent (n : Nat) : Extent.read d q n = Extent.read d p n :=
    ((Extent.readsOnly_read d n).mono
      (subset_exceptDomain (by decide +kernel) (by decide +kernel)) p q h).symm
  have hmethod : TimeStepMethod.read d q = TimeStepMethod.read d p := by
    have hkeys : [Key.timeStepMethod] ⊆ Key.exceptDomain :=
      subset_exceptDomain (by decide +kernel) (by decide +kernel)
    exact (readsOnly_getChoiceD (hkeys List.mem_cons_self) d.method p q h).symm
  have hcoordinates (t : GridType) : Coordinates.read d q t = Coordinates.read d p t := by
    have hkeys : t.keys ⊆ Key.exceptDomain := by
      cases t with
      | box | byRange | bySpacing =>
          exact subset_exceptDomain (by decide +kernel) (by decide +kernel)
    exact ((Coordinates.readsOnly_read d t).mono hkeys p q h).symm
  have hstep (m : TimeStepMethod) (k : Hierarchy) : m.step d q k = m.step d p k := by
    have hkeys : m.keys ⊆ Key.exceptDomain := by
      cases m with
      | given | courantStatic | courantSpeed | courantTime =>
          exact subset_exceptDomain (by decide +kernel) (by decide +kernel)
    exact ((m.readsOnly_step d k).mono hkeys p q h).symm
  rw [resolveGrid, resolveGrid]
  simp only [hlast, hextent, hmethod, hcoordinates, hstep]
  refine Paired.bind_same fun start _ => ?_
  refine Paired.bind_same fun last _ => ?_
  refine Paired.bind_same fun extent _ => ?_
  refine (paired_geometry h hp hq).bind fun g g' _ _ hg => ?_
  obtain ⟨rfl, rfl⟩ := hg
  refine Paired.bind_same fun c _ => ?_
  refine Paired.bind_same fun method _ => ?_
  have hapart := apartAtPlanes_withGeometry (start.withExtent extent) g c b
  have hdeltaTime : method.step d p
      ((start.withExtent extent).withGeometry { g with domain := b } c) =
        method.step d p ((start.withExtent extent).withGeometry g c) :=
    method.step_congr rfl hapart.deltaSpace
  rw [hdeltaTime]
  refine Paired.bind_same fun deltaTime _ => .ok ⟨rfl, ?_, hapart.2, hapart.3⟩
  rw [hapart.fields]

theorem sameButPlanes_of_domains
    (h : AgreeOn Key.exceptDomain p.normalize q.normalize)
    (hp : p.normalize.getChoiceD Key.domain d.domain = .ok a)
    (hq : q.normalize.getChoiceD Key.domain d.domain = .ok b) :
    SameButPlanes a b (resolve d p) (resolve d q) := by
  have hgrid := paired_resolveGrid h hp hq
  rw [← map_grid_resolve, ← map_grid_resolve] at hgrid
  exact hgrid.of_map

end

/-- Each group of keys acts on its own fields. The sizes and bounds and everything that no parameter
changes follow from the keys of the driver, spacing and origin from these and the keys of the grid,
and a change of domain from one known word to another moves origins at the planes that only one of
the two has. -/
theorem resolve_groups_apart (d : Defaults) :
    (∀ p q r s, resolve d p = .ok r → resolve d q = .ok s →
      AgreeOn (Key.group "driver") p.normalize q.normalize →
      s.hierarchy =
          { r.hierarchy with
            deltaSpace := s.hierarchy.deltaSpace
            originSpace := s.hierarchy.originSpace
            deltaTime := s.hierarchy.deltaTime } ∧
        (AgreeOn (Key.group "grid") p.normalize q.normalize →
          s.hierarchy = { r.hierarchy with deltaTime := s.hierarchy.deltaTime })) ∧
    ∀ p q a b, AgreeOn Key.exceptDomain p.normalize q.normalize →
      p.normalize.getChoiceD Key.domain d.domain = .ok a →
      q.normalize.getChoiceD Key.domain d.domain = .ok b →
      SameButPlanes a b (resolve d p) (resolve d q) := by
  constructor
  · intro p q r s hr hs hdriver
    exact ⟨hierarchy_eq_of_driver hr hs hdriver,
      hierarchy_eq_of_driver_grid hr hs hdriver⟩
  · intro p q a b h hp hq
    exact sameButPlanes_of_domains h hp hq

theorem agreeOn_insert_insert {keys : List String} (hkeys : keys ⊆ Key.recognised) {key : String}
    (hkey : key ∈ Key.recognised) (h : key ∉ keys) (p : Parameters) (v w : String) :
    AgreeOn keys (p.insert key v).normalize (p.insert key w).normalize := by
  intro k hk
  rw [normalize_insert, normalize_insert, agreeOn_insert_of_notMem hkeys hkey h _ v k hk,
    agreeOn_insert_of_notMem hkeys hkey h _ w k hk]

/-- A given time step that does not read has no say in a default grid, where it is not used. With
it and without it the coordinates are the same. A quarter and an eighth of a grid are apart at the
third plane. -/
theorem resolve_groups_apart_quarter :
    (∃ r s, resolve .standard .empty = .ok r ∧
      resolve .standard (.insert .empty Key.timeStep "soon") = .ok s ∧
      s.hierarchy = { r.hierarchy with deltaTime := s.hierarchy.deltaTime }) ∧
    SameButPlanes .quadrant .octant (resolve .standard (.insert .empty Key.domain "Quadrant"))
      (resolve .standard (.insert .empty Key.domain "octant")) := by
  obtain ⟨hfields, hplanes⟩ := resolve_groups_apart .standard
  have hagree (test : String → Bool) (h : test Key.timeStep = false) :
      AgreeOn (Key.recognised.filter test) (Parameters.normalize .empty)
        (Parameters.insert .empty Key.timeStep "soon").normalize := by
    have hnot : Key.timeStep ∉ Key.recognised.filter test := by
      intro hmem
      rw [(List.mem_filter.1 hmem).2] at h
      cases h
    intro key hkey
    rw [normalize_insert]
    exact (agreeOn_insert_of_notMem (List.filter_subset_self _) (by decide) hnot _ _ key hkey).symm
  constructor
  · obtain ⟨r, hr⟩ := exists_eq_ok (x := resolve .standard .empty) (by decide +kernel)
    have hmethod : TimeStepMethod.read .standard (Parameters.normalize .empty) =
        .ok .courantStatic := by decide
    have hsame : SameGrid (resolve .standard (.insert .empty Key.timeStep "soon"))
        (resolve .standard .empty) := by
      refine sameGrid_of_map_grid ?_
      rw [map_grid_resolve, map_grid_resolve]
      exact resolveGrid_eq_of_method hmethod (hagree _ (by decide +kernel))
    obtain ⟨s, hs⟩ := exists_eq_ok (hsame.isOk_eq.trans (by rw [hr]; rfl))
    have hdriver : AgreeOn (Key.group "driver") _ _ := hagree _ (by decide +kernel)
    have hgrid : AgreeOn (Key.group "grid") _ _ := hagree _ (by decide +kernel)
    exact ⟨r, s, hr, hs, (hfields _ _ r s hr hs hdriver).2 hgrid⟩
  · have hread (value : String) (a : Domain) (h : choose value = .ok a)
        (hword : readValue .word (tidy value) = .ok value) :
        (Parameters.insert .empty Key.domain value).normalize.getChoiceD Key.domain
          Defaults.standard.domain = .ok a := by
      rw [normalize_insert, getChoiceD, get?_insert (by decide) (by decide) rfl, if_pos rfl, hword]
      exact h
    have hdomain : Key.domain ∉ Key.exceptDomain := by simp [Key.exceptDomain]
    refine hplanes _ _ _ _
      (agreeOn_insert_insert (List.filter_subset_self _) (by decide) hdomain _ _ _) ?_ ?_
    · exact hread _ _ (by decide) (by decide)
    · exact hread _ _ (by decide) (by decide)

end GridSetup
