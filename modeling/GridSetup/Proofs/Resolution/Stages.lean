import GridSetup.Proofs.Parameters.Entries
import GridSetup.Resolution

/-!
# A resolution taken apart

`resolve_eq_ok` says once what a successful resolution went through: a seeded hierarchy, the last
iteration, an extent, a geometry with its coordinates, and a time step, all read from the tidied
parameters. What each part returns is said beside it. The seeded hierarchy has between one and three
axes, and an extent has one size for each of them, none below one; nothing later can fail for lack
of either.

Resolution tidies before it reads anything, so parameters that tidy alike resolve alike, errors
included.
-/

namespace GridSetup

theorem except_bind_eq_ok {ε α β : Type} {x : Except ε α} {f : α → Except ε β} {b : β} :
    (x >>= f) = .ok b ↔ ∃ a, x = .ok a ∧ f a = .ok b := by
  cases x with
  | error e =>
      constructor
      · intro h
        cases h
      · rintro ⟨a, ha, -⟩
        cases ha
  | ok a =>
      constructor
      · intro h
        exact ⟨a, rfl, h⟩
      · rintro ⟨a', ha, h⟩
        cases ha
        exact h

theorem except_ok_bind {ε α β : Type} (a : α) (f : α → Except ε β) : (.ok a >>= f) = f a := rfl

theorem except_map_bind {ε α β γ : Type} (x : Except ε α) (f : α → Except ε β) (g : β → γ) :
    (x >>= f).map g = x >>= fun a => (f a).map g := by
  cases x with
  | error e => rfl
  | ok a => rfl

theorem exists_eq_ok {ε α : Type} {x : Except ε α} (h : x.isOk = true) :
    ∃ a, x = .ok a := by
  cases x with
  | error e => cases h
  | ok a => exact ⟨a, rfl⟩

/-! ## The parts -/

theorem Hierarchy.seed_eq_ok {d : Defaults} {h : Hierarchy} (hs : Hierarchy.seed d = .ok h) :
    (1 ≤ d.dimension ∧ d.dimension ≤ 3) ∧ h = Hierarchy.seeded d.dimension := by
  rw [Hierarchy.seed] at hs
  split at hs
  · next hd =>
      cases hs
      exact ⟨hd, rfl⟩
  · cases hs

theorem Extent.firstEmpty_eq_none {sizes : List Int32} :
    ∀ {axis : Nat}, Extent.firstEmpty axis sizes = none → ∀ n ∈ sizes, 1 ≤ n := by
  induction sizes with
  | nil =>
      intro axis _ n hn
      cases hn
  | cons m rest ih =>
      intro axis h n hn
      rw [Extent.firstEmpty] at h
      split at h
      · cases h
      · next hm =>
          rcases List.mem_cons.1 hn with rfl | hn
          · exact Int32.not_lt.1 hm
          · exact ih h n hn

theorem Extent.read_eq_ok {d : Defaults} {p : Parameters} {dimension : Nat} {e : Extent}
    (h : Extent.read d p dimension = .ok e) : ∃ sizes, Extent.readSizes d p = .ok (e.source, sizes) ∧
      e.sizes = sizes.toList.take dimension ∧ ∀ n ∈ e.sizes, 1 ≤ n := by
  rw [Extent.read] at h
  obtain ⟨⟨source, sizes⟩, hsizes, h⟩ := except_bind_eq_ok.1 h
  simp only [] at h
  split at h
  · cases h
  · next hnone =>
      cases h
      exact ⟨sizes, hsizes, rfl, Extent.firstEmpty_eq_none hnone⟩

theorem Extent.length_sizes {d : Defaults} {p : Parameters} {dimension : Nat} {e : Extent}
    (h : Extent.read d p dimension = .ok e) (hd : dimension ≤ 3) : e.sizes.length = dimension := by
  obtain ⟨sizes, -, hsizes, -⟩ := Extent.read_eq_ok h
  rw [hsizes, List.length_take, PerAxis.length_toList]
  omega

theorem Geometry.length_pointsFrom (g : Geometry) (c : Coordinates) (sizes : List Int32) :
    ∀ axis, (g.pointsFrom c axis sizes).length = sizes.length := by
  induction sizes with
  | nil =>
      intro axis
      rfl
  | cons n rest ih =>
      intro axis
      rw [Geometry.pointsFrom, List.length_cons, ih, List.length_cons]

/-! ## The whole -/

/-- What a successful resolution went through. -/
theorem resolve_eq_ok {d : Defaults} {p : Parameters} {r : Resolution} :
    resolve d p = .ok r ↔ ∃ h last extent geometry coordinates deltaTime,
      Hierarchy.seed d = .ok h ∧ readLastIteration p.normalize = .ok last ∧
      Extent.read d p.normalize h.dimension = .ok extent ∧
      Geometry.read d p.normalize = .ok geometry ∧
      Coordinates.read d p.normalize geometry.gridType = .ok coordinates ∧
      timeStep d p.normalize ((h.withExtent extent).withGeometry geometry coordinates) =
        .ok deltaTime ∧
      r = ⟨{ (h.withExtent extent).withGeometry geometry coordinates with deltaTime }, last,
        p.normalize⟩ := by
  rw [resolve]
  simp only [except_bind_eq_ok]
  constructor
  · rintro ⟨h, hs, last, hl, e, he, g, hg, c, hc, dt, ht, hr⟩
    exact ⟨h, last, e, g, c, dt, hs, hl, he, hg, hc, ht, (Except.ok.inj hr).symm⟩
  · rintro ⟨h, last, e, g, c, dt, hs, hl, he, hg, hc, ht, rfl⟩
    exact ⟨h, hs, last, hl, e, he, g, hg, c, hc, dt, ht, rfl⟩

theorem resolve_normalize (d : Defaults) (p : Parameters) : resolve d p.normalize = resolve d p := by
  rw [resolve, resolve]
  simp only [Parameters.normalize_normalize]

theorem resolve_congr {p q : Parameters} (h : p.normalize = q.normalize) (d : Defaults) :
    resolve d p = resolve d q := by
  rw [← resolve_normalize d p, h, resolve_normalize]

theorem resolve_parameters {d : Defaults} {p : Parameters} {r : Resolution}
    (h : resolve d p = .ok r) : r.parameters = p.normalize := by
  obtain ⟨_, _, _, _, _, _, _, _, _, _, _, _, rfl⟩ := resolve_eq_ok.1 h
  rfl

/-- A text resolves as its tidied parameters do, or as it fails to be read. -/
theorem resolveSource_eq (d : Defaults) (source : String) :
    resolveSource d source = (Parameters.ofSource source).bind (resolve d) := by
  rw [resolveSource, Parameters.ofSourceNormalized]
  cases Parameters.ofSource source with
  | error e => rfl
  | ok p => exact resolve_normalize d p

/-- What is left of a successful resolution when only its dimension and sizes were looked at. -/
theorem exists_resolve_of_sizes {d : Defaults} {p : Parameters} {dimension : Nat}
    {sizes : List Int32} (hp : p.normalized = true)
    (hsizes : (resolve d p).map (fun r => (r.hierarchy.dimension, r.hierarchy.globalSize)) =
      .ok (dimension, sizes)) :
    ∃ r, resolve d p = .ok r ∧ r.parameters = p ∧ r.hierarchy.dimension = dimension ∧
      r.hierarchy.globalSize = sizes := by
  cases hr : resolve d p with
  | error e =>
      rw [hr] at hsizes
      cases hsizes
  | ok r =>
      rw [hr] at hsizes
      obtain ⟨hdimension, hsizes⟩ := Prod.mk.inj (Except.ok.inj hsizes)
      exact ⟨r, rfl, (resolve_parameters hr).trans (Parameters.normalize_of_normalized hp),
        hdimension, hsizes⟩

end GridSetup
