import GridSetup.Proofs.Resolution.Errors

/-!
# Axes that the grid does not have

A parameter file can set keys of three axes for a grid with one or two. All
three are read, whatever the dimension, and only then is the extent cut down. So
a key of an axis beyond the dimension can make a difference in two ways and in no
other: its value does not read, which is an error as it is for any recognised
key, or it is a local size that decides whether all three local sizes are given
and positive.

Two runs on parameters that differ in such keys only are compared part by part.
`Alike` is what they have in common: where both succeed the results are related,
and where one fails the other fails with the same error, unless the error is
about a value of an axis that the grid does not have. The relation between
results is agreement on the axes below the dimension, and nothing that is made of
them afterwards looks further.
-/

namespace GridSetup

open Parameter Parameters

/-! ## The keys of an axis -/

namespace Key

def ofAxis (axis : Nat) : List String :=
  perAxis.map fun setting => setting.1.axes.onAxis axis

/-- The keys of the axes at or beyond a dimension. -/
def beyond (dimension : Nat) : List String :=
  ((List.range maxDimension).filter fun axis => dimension ≤ axis).flatMap ofAxis

/-- The keys that are not about axes. -/
def shared : List String :=
  [lastIteration, gridType, domain, timeStepMethod, timeStep, stepFactor, courantFactor, waveSpeed,
    crossingTime]

/-- The recognised keys without those of the axes at or beyond a dimension. -/
def within (dimension : Nat) : List String :=
  recognised.filter fun key => key ∉ beyond dimension

theorem mem_beyond {dimension : Nat} {key : String} :
    key ∈ beyond dimension ↔ ∃ axis < 3, dimension ≤ axis ∧ key ∈ ofAxis axis := by
  simp [beyond, maxDimension, and_assoc]

theorem mem_within {dimension : Nat} {key : String} :
    key ∈ within dimension ↔ key ∈ recognised ∧ key ∉ beyond dimension := by
  simp [within]

theorem within_zero_subset (dimension : Nat) : within 0 ⊆ within dimension := by
  intro key h
  obtain ⟨hkey, hbeyond⟩ := mem_within.1 h
  refine mem_within.2 ⟨hkey, fun hmem => hbeyond ?_⟩
  obtain ⟨axis, haxis, -, hof⟩ := mem_beyond.1 hmem
  exact mem_beyond.2 ⟨axis, haxis, Nat.zero_le axis, hof⟩

theorem shared_subset_within (dimension : Nat) : shared ⊆ within dimension := by
  have hzero : shared ⊆ within 0 := by decide
  exact List.Subset.trans hzero (within_zero_subset dimension)

theorem axis_unique : ∀ setting ∈ perAxis, ∀ axis < 3, ∀ other < 3,
    setting.1.axes.onAxis axis ∈ ofAxis other → axis = other := by
  decide

theorem onAxis_mem_toList (ks : AxisKeys) (axis : Nat) : ks.axes.onAxis axis ∈ ks.toList := by
  match axis with
  | 0 => exact List.mem_cons_self
  | 1 => exact List.mem_cons_of_mem _ List.mem_cons_self
  | _ + 2 => exact List.mem_cons_of_mem _ (List.mem_cons_of_mem _ List.mem_cons_self)

section

variable {ks : AxisKeys} {t : ValueType}

theorem uniform_mem_within (h : (ks, t) ∈ perAxis) (dimension : Nat) :
    ks.uniform ∈ within dimension := by
  have hzero : ∀ setting ∈ perAxis, setting.1.uniform ∈ within 0 := by decide
  exact within_zero_subset dimension (hzero (ks, t) h)

theorem onAxis_mem_types (h : (ks, t) ∈ perAxis) (axis : Nat) :
    (ks.axes.onAxis axis, t) ∈ types :=
  mem_types_of_perAxis h _ (onAxis_mem_toList ks axis)

theorem onAxis_mem_within (h : (ks, t) ∈ perAxis) {axis dimension : Nat} (haxis : axis < 3)
    (hbelow : axis < dimension) : ks.axes.onAxis axis ∈ within dimension := by
  refine mem_within.2 ⟨mem_recognised_of_types (onAxis_mem_types h axis), fun hmem => ?_⟩
  obtain ⟨other, hother, hle, hof⟩ := mem_beyond.1 hmem
  have heq : axis = other := axis_unique (ks, t) h axis haxis other hother hof
  omega

theorem onAxis_mem_beyond (h : (ks, t) ∈ perAxis) {axis dimension : Nat} (haxis : axis < 3)
    (hle : dimension ≤ axis) : ks.axes.onAxis axis ∈ beyond dimension := by
  have hof : ks.axes.onAxis axis ∈ ofAxis axis :=
    List.mem_map_of_mem (f := fun setting : AxisKeys × ValueType => setting.1.axes.onAxis axis) h
  exact mem_beyond.2 ⟨axis, haxis, hle, hof⟩

end

end Key

/-- The error of a value that does not read, under a key of an axis at or beyond a dimension. -/
def UnreadableBeyond (dimension : Nat) (p : Parameters) (e : Error) : Prop :=
  ∃ key t value, key ∈ Key.beyond dimension ∧ (key, t) ∈ Key.types ∧
    p.value? key = some value ∧ readValue t value = .error e

/-- The local sizes decide in one of two parameters and not in the other. -/
def Extent.DecidedApart (p q : Parameters) : Prop :=
  ∃ sizes, (Extent.readLocal p = .ok (some sizes) ∧ Extent.readLocal q = .ok none) ∨
    (Extent.readLocal p = .ok none ∧ Extent.readLocal q = .ok (some sizes))

/-! ## Two runs -/

/-- Two outcomes for two parameters: related results or the same error, but either may have failed
on a value of an axis at or beyond a dimension. -/
inductive Alike {α : Type} (dimension : Nat) (p q : Parameters) (R : α → α → Prop) :
    Except Error α → Except Error α → Prop where
  | ok {a b : α} : R a b → Alike dimension p q R (.ok a) (.ok b)
  | error (e : Error) : Alike dimension p q R (.error e) (.error e)
  | left {e : Error} (y : Except Error α) : UnreadableBeyond dimension p e →
      Alike dimension p q R (.error e) y
  | right (x : Except Error α) {e : Error} : UnreadableBeyond dimension q e →
      Alike dimension p q R x (.error e)

section

variable {α β : Type} {n : Nat} {p q : Parameters} {R : α → α → Prop} {S : β → β → Prop}

theorem Alike.refl (x : Except Error α) : Alike n p q Eq x x := by
  cases x with
  | error e => exact .error e
  | ok a => exact .ok rfl

theorem Alike.eq_or_unreadable {x y : Except Error α} (h : Alike n p q Eq x y) :
    x = y ∨ (∃ e, x = .error e ∧ UnreadableBeyond n p e) ∨
      ∃ e, y = .error e ∧ UnreadableBeyond n q e := by
  cases h with
  | ok hR => exact .inl (congrArg Except.ok hR)
  | error e => exact .inl rfl
  | left _ he => exact .inr (.inl ⟨_, rfl, he⟩)
  | right _ he => exact .inr (.inr ⟨_, rfl, he⟩)

theorem Alike.imp {x y : Except Error α} {S : α → α → Prop} (h : Alike n p q R x y)
    (hS : ∀ a b, x = .ok a → y = .ok b → R a b → S a b) : Alike n p q S x y := by
  cases h with
  | ok hR => exact .ok (hS _ _ rfl rfl hR)
  | error e => exact .error e
  | left _ he => exact .left _ he
  | right _ he => exact .right _ he

theorem Alike.bind {x y : Except Error α} {f g : α → Except Error β} (h : Alike n p q R x y)
    (hfg : ∀ a b, x = .ok a → y = .ok b → R a b → Alike n p q S (f a) (g b)) :
    Alike n p q S (x >>= f) (y >>= g) := by
  cases h with
  | ok hR => exact hfg _ _ rfl rfl hR
  | error e => exact .error e
  | left _ he => exact .left _ he
  | right _ he => exact .right _ he

theorem Alike.map {x y : Except Error α} (h : Alike n p q R x y) {f g : α → β}
    (hfg : ∀ a b, R a b → S (f a) (g b)) : Alike n p q S (x.map f) (y.map g) := by
  cases h with
  | ok hR => exact .ok (hfg _ _ hR)
  | error e => exact .error e
  | left _ he => exact .left _ he
  | right _ he => exact .right _ he

end

/-! ## Agreement below the dimension -/

/-- Values for the three axes that agree on the axes below a dimension. -/
def PerAxis.SameBelow {α : Type} (dimension : Nat) (v w : PerAxis α) : Prop :=
  ∀ axis < dimension, v.onAxis axis = w.onAxis axis

namespace PerAxis.SameBelow

variable {α : Type} {n : Nat} {v w : PerAxis α}

theorem refl (n : Nat) (v : PerAxis α) : SameBelow n v v := by
  intro axis _
  rfl

theorem of_axes (h : ∀ axis < 3, axis < n → v.onAxis axis = w.onAxis axis) : SameBelow n v w := by
  intro axis haxis
  match axis, haxis with
  | 0, haxis => exact h 0 (by omega) haxis
  | 1, haxis => exact h 1 (by omega) haxis
  | axis + 2, haxis => exact h 2 (by omega) (by omega)

theorem take_eq (h : SameBelow n v w) : v.toList.take n = w.toList.take n := by
  refine List.ext_getElem? fun i => ?_
  by_cases hi : i < n
  · have hv : ∀ u : PerAxis α, u.toList[i]? = if i < 3 then some (u.onAxis i) else none := by
      intro u
      match i with
      | 0 | 1 | 2 | _ + 3 => rfl
    rw [List.getElem?_take_of_lt hi, List.getElem?_take_of_lt hi, hv, hv, h i hi]
  · rw [List.getElem?_take_eq_none (Nat.not_lt.1 hi), List.getElem?_take_eq_none (Nat.not_lt.1 hi)]

end PerAxis.SameBelow

/-! ## Reads -/

section

variable {n : Nat} {p q : Parameters}

theorem Parameters.get?_eq_error_iff {key : String} {t : ValueType} {e : Error} :
    p.get? t key = .error e ↔ ∃ value, p.value? key = some value ∧ readValue t value = .error e := by
  rw [Parameters.get?]
  cases p.value? key with
  | none => simp
  | some value => simp [except_map_eq_error_iff]

theorem get?_axis_eq (hpq : AgreeOn (Key.within n) p q) {ks : Key.AxisKeys} {t : ValueType}
    (hks : (ks, t) ∈ Key.perAxis) {axis : Nat} (haxis : axis < 3) (hbelow : axis < n) :
    p.get? t (ks.axes.onAxis axis) = q.get? t (ks.axes.onAxis axis) :=
  readsOnly_get? t (Key.onAxis_mem_within hks haxis hbelow) p q hpq

theorem get?_uniform_eq (hpq : AgreeOn (Key.within n) p q) {ks : Key.AxisKeys} {t : ValueType}
    (hks : (ks, t) ∈ Key.perAxis) : p.get? t ks.uniform = q.get? t ks.uniform :=
  readsOnly_get? t (Key.uniform_mem_within hks n) p q hpq

theorem alike_get?_axis (hpq : AgreeOn (Key.within n) p q) {ks : Key.AxisKeys} {t : ValueType}
    (hks : (ks, t) ∈ Key.perAxis) {axis : Nat} (haxis : axis < 3) :
    Alike n p q (fun v w => axis < n → v = w) (p.get? t (ks.axes.onAxis axis))
      (q.get? t (ks.axes.onAxis axis)) := by
  by_cases hbelow : axis < n
  · rw [get?_axis_eq hpq hks haxis hbelow]
    exact (Alike.refl _).imp fun v w _ _ hvw _ => hvw
  · have hmem := Key.onAxis_mem_beyond hks haxis (Nat.not_lt.1 hbelow)
    have ht := Key.onAxis_mem_types hks axis
    cases hp : p.get? t (ks.axes.onAxis axis) with
    | error e =>
        obtain ⟨value, hvalue, he⟩ := Parameters.get?_eq_error_iff.1 hp
        exact .left _ ⟨_, t, value, hmem, ht, hvalue, he⟩
    | ok v =>
        cases hq : q.get? t (ks.axes.onAxis axis) with
        | error e =>
            obtain ⟨value, hvalue, he⟩ := Parameters.get?_eq_error_iff.1 hq
            exact .right _ ⟨_, t, value, hmem, ht, hvalue, he⟩
        | ok w => exact .ok fun h => absurd h hbelow

theorem alike_shared {α : Type} {f : Parameters → Except Error α}
    (hpq : AgreeOn (Key.within n) p q) (hf : ReadsOnly Key.shared f) :
    Alike n p q Eq (f p) (f q) := by
  have heq : f p = f q := hf.mono (Key.shared_subset_within n) p q hpq
  rw [heq]
  exact .refl _

theorem alike_getAxes (hpq : AgreeOn (Key.within n) p q) {ks : Key.AxisKeys} {t : ValueType}
    (hks : (ks, t) ∈ Key.perAxis) (default : PerAxis t.Carrier) (accept : t.Carrier → Bool) :
    Alike n p q (PerAxis.SameBelow n) (p.getAxes t ks default accept)
      (q.getAxes t ks default accept) := by
  have haxis (axis : Nat) (h3 : axis < 3) : Alike n p q (fun v w => axis < n → v = w)
      (p.getD t (ks.axes.onAxis axis) (default.onAxis axis))
      (q.getD t (ks.axes.onAxis axis) (default.onAxis axis)) :=
    (alike_get?_axis hpq hks h3).map fun v w hvw hbelow => by rw [hvw hbelow]
  refine (haxis 0 (by decide)).bind fun x x' _ _ hx => ?_
  refine (haxis 1 (by decide)).bind fun y y' _ _ hy => ?_
  refine (haxis 2 (by decide)).bind fun z z' _ _ hz => ?_
  have hxyz : PerAxis.SameBelow n ⟨x, y, z⟩ ⟨x', y', z'⟩ := by
    refine .of_axes fun axis h3 hbelow => ?_
    match axis, hbelow with
    | 0, hbelow => exact hx hbelow
    | 1, hbelow => exact hy hbelow
    | 2, hbelow => exact hz hbelow
  rw [get?_uniform_eq hpq hks]
  refine (Alike.refl _).bind fun u u' _ _ hu => ?_
  subst hu
  cases u with
  | none => exact .ok hxyz
  | some u =>
      refine .ok ?_
      split
      · exact .refl n _
      · exact hxyz

end

/-! ## The extent -/

theorem Extent.given_of_eq_some {v : Option Int32 × Option Int32 × Option Int32}
    {sizes : PerAxis Int32}
    (h : (match v with
      | (x, y, z) =>
        match x, y, z with
        | some x, some y, some z => return if 0 < x ∧ 0 < y ∧ 0 < z then some ⟨x, y, z⟩ else none
        | _, _, _ => return none : Except Error (Option (PerAxis Int32))) = .ok (some sizes)) :
    v = (some sizes.x, some sizes.y, some sizes.z) := by
  split at h
  split at h
  · split at h
    · cases h
      rfl
    · cases h
  · cases h

/-- The local sizes are the uniform one, if that is positive, and else those of the axes. -/
theorem Extent.readLocal_eq_ok_some {p : Parameters} {sizes : PerAxis Int32}
    (h : Extent.readLocal p = .ok (some sizes)) :
    ∃ uniform, p.get? .int32 Key.localSize.uniform = .ok uniform ∧
      ((∃ n, uniform = some n ∧ 0 < n ∧ sizes = .all n) ∨
        ((∀ n, uniform = some n → ¬ 0 < n) ∧ ∀ axis < 3,
          p.get? .int32 (Key.localSize.axes.onAxis axis) = .ok (some (sizes.onAxis axis)))) := by
  obtain ⟨x, hx, h⟩ := except_bind_eq_ok.1 h
  obtain ⟨y, hy, h⟩ := except_bind_eq_ok.1 h
  obtain ⟨z, hz, h⟩ := except_bind_eq_ok.1 h
  obtain ⟨uniform, hu, h⟩ := except_bind_eq_ok.1 h
  refine ⟨uniform, hu, ?_⟩
  have hv := Extent.given_of_eq_some h
  obtain ⟨a, b, c⟩ := sizes
  have haxes : (x, y, z) = (some a, some b, some c) → ∀ axis < 3,
      p.get? .int32 (Key.localSize.axes.onAxis axis) = .ok (some (PerAxis.onAxis ⟨a, b, c⟩ axis)) := by
    rintro ⟨⟩ axis h3
    match axis, h3 with
    | 0, _ => exact hx
    | 1, _ => exact hy
    | 2, _ => exact hz
  cases uniform with
  | none =>
      refine .inr ⟨fun n hn => ?_, haxes hv⟩
      cases hn
  | some m =>
      by_cases hm : 0 < m
      · simp only [if_pos hm] at hv
        cases hv
        exact .inl ⟨_, rfl, hm, rfl⟩
      · simp only [if_neg hm] at hv
        refine .inr ⟨fun k hk => ?_, haxes hv⟩
        cases hk
        exact hm

section

variable {d : Defaults} {n : Nat} {p q : Parameters}

theorem alike_of_never_fails {α : Type} {x y : Except Error α} (hx : FailsBy (fun _ => False) x)
    (hy : FailsBy (fun _ => False) y) : Alike n p q (fun _ _ => True) x y := by
  cases x with
  | error e => exact absurd rfl (hx e)
  | ok a =>
      cases y with
      | error e => exact absurd rfl (hy e)
      | ok b => exact .ok trivial

theorem localSize_mem_perAxis : (Key.localSize, .int32) ∈ Key.perAxis := by
  simp [Key.perAxis]

theorem alike_readLocal_any (hpq : AgreeOn (Key.within n) p q) :
    Alike n p q (fun _ _ => True) (Extent.readLocal p) (Extent.readLocal q) := by
  have haxis (axis : Nat) (h3 : axis < 3) := alike_get?_axis hpq localSize_mem_perAxis h3
  refine (haxis 0 (by decide)).bind fun x x' _ _ _ => ?_
  refine (haxis 1 (by decide)).bind fun y y' _ _ _ => ?_
  refine (haxis 2 (by decide)).bind fun z z' _ _ _ => ?_
  rw [get?_uniform_eq hpq localSize_mem_perAxis]
  refine (Alike.refl _).bind fun u u' _ _ _ => ?_
  -- what is made of the four values never fails
  apply alike_of_never_fails
  · split
    split
    · exact .ok _
    · exact .ok _
  · split
    split
    · exact .ok _
    · exact .ok _

theorem alike_readLocal (hpq : AgreeOn (Key.within n) p q) :
    Alike n p q (fun v w => ∀ s t, v = some s → w = some t → PerAxis.SameBelow n s t)
      (Extent.readLocal p) (Extent.readLocal q) := by
  refine (alike_readLocal_any hpq).imp fun v w hv hw _ s t hs ht => ?_
  subst hs ht
  obtain ⟨u, hu, hs⟩ := Extent.readLocal_eq_ok_some hv
  obtain ⟨u', hu', ht⟩ := Extent.readLocal_eq_ok_some hw
  rw [get?_uniform_eq hpq localSize_mem_perAxis, hu'] at hu
  cases hu
  rcases hs with ⟨m, rfl, hm, rfl⟩ | ⟨hnot, hs⟩
  · rcases ht with ⟨m', hm', -, rfl⟩ | ⟨hnot, -⟩
    · cases hm'
      exact .refl n _
    · exact absurd hm (hnot m rfl)
  · rcases ht with ⟨m, rfl, hm, -⟩ | ⟨-, ht⟩
    · exact absurd hm (hnot m rfl)
    · refine .of_axes fun axis h3 hbelow => ?_
      have heq := get?_axis_eq hpq localSize_mem_perAxis h3 hbelow
      rw [hs axis h3, ht axis h3] at heq
      exact Option.some.inj (Except.ok.inj heq)

theorem alike_readSizes (hpq : AgreeOn (Key.within n) p q) (hdecided : ¬ Extent.DecidedApart p q) :
    Alike n p q (fun v w => v.1 = w.1 ∧ PerAxis.SameBelow n v.2 w.2) (Extent.readSizes d p)
      (Extent.readSizes d q) := by
  refine (alike_readLocal hpq).bind fun v w hv hw hvw => ?_
  cases v with
  | some s =>
      cases w with
      | some t => exact .ok ⟨rfl, hvw s t rfl rfl⟩
      | none => exact absurd ⟨s, .inl ⟨hv, hw⟩⟩ hdecided
  | none =>
      cases w with
      | some t => exact absurd ⟨t, .inr ⟨hv, hw⟩⟩ hdecided
      | none =>
          have hks : (Key.globalSize, .int32) ∈ Key.perAxis := by simp [Key.perAxis]
          refine (alike_getAxes hpq hks _ _).bind fun s t _ _ hst => ?_
          exact .ok ⟨rfl, hst⟩

theorem alike_extent (hpq : AgreeOn (Key.within n) p q) (hdecided : ¬ Extent.DecidedApart p q) :
    Alike n p q Eq (Extent.read d p n) (Extent.read d q n) := by
  refine (alike_readSizes hpq hdecided).bind fun ⟨source, sizes⟩ ⟨source', sizes'⟩ _ _ hsizes => ?_
  obtain ⟨hsource, hsame⟩ := hsizes
  cases hsource
  simp only [hsame.take_eq]
  exact .refl _

/-! ## The geometry -/

structure Geometry.SameBelow (dimension : Nat) (g g' : Geometry) : Prop where
  gridType : g.gridType = g'.gridType
  domain : g.domain = g'.domain
  avoidOrigin : g.avoidOrigin.SameBelow dimension g'.avoidOrigin

inductive Coordinates.SameBelow (dimension : Nat) : Coordinates → Coordinates → Prop where
  | unitBox : SameBelow dimension .unitBox .unitBox
  | range {first last first' last' : PerAxis Float} : first.SameBelow dimension first' →
      last.SameBelow dimension last' → SameBelow dimension (.range first last) (.range first' last')
  | spaced {spacing spacing' : PerAxis Float} : spacing.SameBelow dimension spacing' →
      SameBelow dimension (.spaced spacing) (.spaced spacing')

theorem alike_geometry (hpq : AgreeOn (Key.within n) p q) :
    Alike n p q (Geometry.SameBelow n) (Geometry.read d p) (Geometry.read d q) := by
  have hks : (Key.avoidOrigin, .flag) ∈ Key.perAxis := by simp [Key.perAxis]
  refine (alike_shared hpq (readsOnly_getChoiceD (by decide) _)).bind
    fun gridType _ _ _ hgridType => ?_
  refine (alike_shared hpq (readsOnly_getChoiceD (by decide) _)).bind
    fun domain _ _ _ hdomain => ?_
  refine (alike_getAxes hpq hks _ _).bind fun avoid avoid' _ _ havoid => ?_
  exact .ok ⟨hgridType, hdomain, havoid⟩

theorem alike_coordinates (hpq : AgreeOn (Key.within n) p q) (gridType : GridType) :
    Alike n p q (Coordinates.SameBelow n) (Coordinates.read d p gridType)
      (Coordinates.read d q gridType) := by
  cases gridType with
  | box => exact .ok .unitBox
  | byRange =>
      have hmin : (Key.rangeMin, .double) ∈ Key.perAxis := by simp [Key.perAxis]
      have hmax : (Key.rangeMax, .double) ∈ Key.perAxis := by simp [Key.perAxis]
      refine (alike_getAxes hpq hmin _ _).bind fun v w _ _ hfirst => ?_
      refine (alike_getAxes hpq hmax _ _).bind fun v' w' _ _ hlast => ?_
      exact .ok (.range hfirst hlast)
  | bySpacing =>
      have hks : (Key.spacing, .double) ∈ Key.perAxis := by simp [Key.perAxis]
      refine (alike_getAxes hpq hks _ _).bind fun v w _ _ hspacing => ?_
      exact .ok (.spaced hspacing)

theorem Coordinates.SameBelow.points_eq {c c' : Coordinates} (h : c.SameBelow n c') {axis : Nat}
    (haxis : axis < n) (size : Int32) (avoid : Bool) :
    c.points axis size avoid = c'.points axis size avoid := by
  cases h with
  | unitBox => rfl
  | range hfirst hlast =>
      simp only [Coordinates.points, hfirst axis haxis, hlast axis haxis]
  | spaced hspacing => simp only [Coordinates.points, hspacing axis haxis]

/-- The points of axes below a dimension follow from what is given for these axes. -/
theorem Geometry.SameBelow.pointsFrom_eq {g g' : Geometry} (hg : g.SameBelow n g')
    {c c' : Coordinates} (hc : c.SameBelow n c') {sizes : List Int32} :
    ∀ {axis : Nat}, axis + sizes.length ≤ n → g.pointsFrom c axis sizes = g'.pointsFrom c' axis sizes := by
  induction sizes with
  | nil =>
      intro axis _
      rfl
  | cons size rest ih =>
      intro axis hle
      rw [List.length_cons] at hle
      have haxis : axis < n := by omega
      have hpoints : g.points c axis size = g'.points c' axis size := by
        simp only [Geometry.points, hg.domain, hg.avoidOrigin axis haxis, hc.points_eq haxis]
      rw [Geometry.pointsFrom, Geometry.pointsFrom, hpoints, ih (by omega)]

/-! ## The whole -/

theorem alike_resolveGrid (hpq : AgreeOn (Key.within d.dimension) p q)
    (hdecided : ¬ Extent.DecidedApart p q) :
    Alike d.dimension p q Eq (resolveGrid d p) (resolveGrid d q) := by
  refine (Alike.refl _).bind fun h h' hh _ heq => ?_
  subst heq
  obtain ⟨-, rfl⟩ := Hierarchy.seed_eq_ok hh
  refine (alike_shared hpq (readsOnly_get? .nat32 (by decide))).bind
    fun last last' _ _ hlast => ?_
  subst hlast
  refine (alike_extent hpq hdecided).bind fun extent extent' hextent _ heq => ?_
  subst heq
  refine (alike_geometry hpq).bind fun g g' _ _ hg => ?_
  rw [hg.gridType]
  refine (alike_coordinates hpq _).bind fun c c' _ _ hc => ?_
  have hmethod : ReadsOnly Key.shared (TimeStepMethod.read d) :=
    readsOnly_getChoiceD (by decide) _
  refine (alike_shared hpq hmethod).bind fun method method' _ _ heq => ?_
  subst heq
  have hlength : extent.sizes.length ≤ d.dimension := by
    obtain ⟨sizes, -, hsizes, -⟩ := Extent.read_eq_ok hextent
    rw [hsizes]
    exact List.length_take_le _ _
  have hpoints : g.pointsFrom c 0 extent.sizes = g'.pointsFrom c' 0 extent.sizes :=
    hg.pointsFrom_eq hc (by omega)
  have hgrid : ((Hierarchy.seeded d.dimension).withExtent extent).withGeometry g c =
      ((Hierarchy.seeded d.dimension).withExtent extent).withGeometry g' c' := by
    simp only [Hierarchy.withGeometry, Hierarchy.withExtent, hpoints]
  rw [hgrid]
  have hkeys : method.keys ⊆ Key.shared := by cases method <;> decide
  exact alike_shared hpq (((method.readsOnly_step d _).mono hkeys).bind fun deltaTime => .const _)

end

/-- Parameters that differ only in keys of axes at or beyond the dimension resolve to the same grid
or fail with the same error, unless the local sizes decide in one of them and not in the other, or
one of them fails on a value of such an axis. -/
theorem resolve_reads_own_axes (d : Defaults) (p q : Parameters)
    (h : AgreeOn (Key.within d.dimension) p.normalize q.normalize) :
    SameGrid (resolve d p) (resolve d q) ∨ Extent.DecidedApart p.normalize q.normalize ∨
      (∃ e, resolve d p = .error e ∧ UnreadableBeyond d.dimension p.normalize e) ∨
      ∃ e, resolve d q = .error e ∧ UnreadableBeyond d.dimension q.normalize e := by
  by_cases hdecided : Extent.DecidedApart p.normalize q.normalize
  · exact .inr (.inl hdecided)
  · have halike := (alike_resolveGrid h hdecided).eq_or_unreadable
    simp only [← map_grid_resolve, except_map_eq_error_iff] at halike
    rcases halike with heq | hunreadable
    · exact .inl (sameGrid_of_map_grid heq)
    · exact .inr (.inr hunreadable)

/-! ## Both exceptions are real -/

theorem exists_readSizes_of_resolve {d : Defaults} {p : Parameters} {r : Resolution}
    (h : resolve d p = .ok r) : ∃ source sizes,
      Extent.readSizes d p.normalize = .ok (source, sizes) ∧
        r.hierarchy.globalSize = sizes.toList.take d.dimension := by
  obtain ⟨h, last, extent, geometry, coordinates, deltaTime, hseed, -, hextent, -, -, -, rfl⟩ :=
    resolve_eq_ok.1 h
  obtain ⟨-, rfl⟩ := Hierarchy.seed_eq_ok hseed
  obtain ⟨sizes, hsizes, htake, -⟩ := Extent.read_eq_ok hextent
  exact ⟨extent.source, sizes, hsizes, htake⟩

/-- Where the local sizes decide in one of two parameters only, the grids differ as soon as the
local sizes there and the global sizes here do. -/
theorem not_sameGrid_of_decidedApart {d : Defaults} {p q : Parameters} {r : Resolution}
    {sizes : PerAxis Int32} (hr : resolve d q = .ok r)
    (hlocal : Extent.readLocal q.normalize = .ok (some sizes))
    (hnone : Extent.readLocal p.normalize = .ok none)
    (hne : ∀ global, Extent.readGlobal d p.normalize = .ok global →
      global.toList.take d.dimension ≠ sizes.toList.take d.dimension) :
    ¬ SameGrid (resolve d p) (resolve d q) := by
  intro hsame
  have hok : (resolve d p).isOk = true := by
    rw [hsame.isOk_eq, hr]
    rfl
  obtain ⟨s, hs⟩ := exists_eq_ok hok
  rw [hs, hr] at hsame
  obtain ⟨qSource, qSizes, hq, hrSize⟩ := exists_readSizes_of_resolve hr
  obtain ⟨pSource, pSizes, hp, hsSize⟩ := exists_readSizes_of_resolve hs
  rw [Extent.readSizes, hlocal] at hq
  cases hq
  rw [Extent.readSizes, hnone] at hp
  obtain ⟨v, hv, hp⟩ := except_bind_eq_ok.1 hp
  cases hv
  obtain ⟨global, hglobal, hp⟩ := except_bind_eq_ok.1 hp
  cases hp
  cases hsame with
  | ok hhierarchy hlast =>
      rw [hhierarchy, hrSize] at hsSize
      exact hne _ hglobal hsSize.symm

/-! ## Single keys -/

theorem Extent.not_decidedApart {p q : Parameters} (h : AgreeOn Key.localSize.toList p q) :
    ¬ Extent.DecidedApart p q := by
  have heq : Extent.readLocal p = Extent.readLocal q := Extent.readsOnly_readLocal p q h
  rintro ⟨sizes, ⟨hp, hq⟩ | ⟨hp, hq⟩⟩
  · rw [heq, hq] at hp
    cases hp
  · rw [heq, hq] at hp
    cases hp

theorem agreeOn_insert_of_notMem {keys : List String} (hkeys : keys ⊆ Key.recognised) {key : String}
    (hkey : key ∈ Key.recognised) (h : key ∉ keys) (p : Parameters) (value : String) :
    AgreeOn keys (p.insert key value) p := by
  intro k hk
  have hne : k ≠ key := by
    rintro rfl
    exact h hk
  rw [value?, value?, foldKey_of_mem_recognised (hkeys hk), Parameters.insert,
    foldKey_of_mem_recognised hkey, Table.get?_insert, if_neg hne]

theorem value?_insert {key k : String} (hkey : key ∈ Key.recognised) (hk : k ∈ Key.recognised)
    {p : Parameters} (hp : p.normalized = true) (value : String) :
    (p.insert key value).value? k = if k = key then some (tidy value) else p.value? k := by
  rw [value?, value?, foldKey_of_mem_recognised hk, Parameters.insert,
    foldKey_of_mem_recognised hkey, Table.get?_insert, if_pos hp]

theorem get?_insert {key k : String} (hkey : key ∈ Key.recognised) (hk : k ∈ Key.recognised)
    {p : Parameters} (hp : p.normalized = true) (t : ValueType) (value : String) :
    (p.insert key value).get? t k =
      if k = key then (readValue t (tidy value)).map some else p.get? t k := by
  rw [Parameters.get?, value?_insert hkey hk hp]
  by_cases heq : k = key
  · rw [if_pos heq, if_pos heq]
  · rw [if_neg heq, if_neg heq, Parameters.get?]

theorem UnreadableBeyond.of_insert {n : Nat} {p : Parameters} {key value : String} {e : Error}
    (h : UnreadableBeyond n (p.insert key value) e) (hkey : key ∈ Key.recognised)
    (hp : p.normalized = true)
    (hread : ∀ t, (key, t) ∈ Key.types → ∀ e, readValue t (tidy value) ≠ .error e) :
    UnreadableBeyond n p e := by
  obtain ⟨k, t, v, hbeyond, ht, hv, he⟩ := h
  rw [value?_insert hkey (Key.mem_recognised_of_types ht) hp] at hv
  split at hv
  · next heq =>
      subst heq
      cases hv
      exact absurd he (hread t ht e)
  · exact ⟨k, t, v, hbeyond, ht, hv, he⟩

/-- A grid with two axes and a third global size of no use. -/
theorem resolve_reads_own_axes_plane :
    AgreeOn (Key.within 2) (Parameters.insert .empty "driver::global_nz" "-4").normalize
        (Parameters.normalize .empty) ∧
      SameGrid
        (resolve { Defaults.standard with dimension := 2 } (.insert .empty "driver::global_nz" "-4"))
        (resolve { Defaults.standard with dimension := 2 } .empty) := by
  have hkey : "driver::global_nz" ∈ Key.recognised := by decide
  have hagree (keys : List String) (hsub : keys ⊆ Key.recognised)
      (hmem : "driver::global_nz" ∉ keys) :
      AgreeOn keys (Parameters.insert .empty "driver::global_nz" "-4").normalize
        (Parameters.normalize .empty) := by
    rw [normalize_insert]
    exact agreeOn_insert_of_notMem hsub hkey hmem _ _
  have hks : (Key.globalSize, ValueType.int32) ∈ Key.perAxis := by simp [Key.perAxis]
  have hbeyond : Key.globalSize.axes.onAxis 2 ∈ Key.beyond 2 :=
    Key.onAxis_mem_beyond hks (by decide) (Nat.le_refl 2)
  have hwithin : AgreeOn (Key.within 2) _ _ :=
    hagree _ (fun key h => (Key.mem_within.1 h).1) fun h => (Key.mem_within.1 h).2 hbeyond
  refine ⟨hwithin, ?_⟩
  rcases resolve_reads_own_axes { Defaults.standard with dimension := 2 } _ _ hwithin with
    hsame | hdecided | ⟨e, -, hunreadable⟩ | ⟨e, -, key, t, value, -, -, hvalue, -⟩
  · exact hsame
  · exact absurd hdecided (Extent.not_decidedApart (hagree _ (by decide) (by decide)))
  · rw [normalize_insert] at hunreadable
    obtain ⟨key, t, value, -, -, hvalue, -⟩ := hunreadable.of_insert hkey rfl fun t ht e he => by
      have hint : t = .int32 := by
        cases t with
        | int32 => rfl
        | _ => exact absurd ht (by decide)
      subst hint
      have htidy : tidy "-4" = "-4" := by decide
      have hread : readValue .int32 "-4" = .ok (-4) := by decide
      rw [htidy, hread] at he
      cases he
    cases hvalue
  · cases hvalue

/-- A third local size that does not read fails a plane. -/
theorem not_sameGrid_of_unreadable_third :
    ¬ SameGrid
      (resolve { Defaults.standard with dimension := 2 } (.insert .empty "driver::local_nz" "1x"))
      (resolve { Defaults.standard with dimension := 2 } .empty) := by
  intro hsame
  have hplane : (resolve { Defaults.standard with dimension := 2 } .empty).isOk = true := by
    decide +kernel
  obtain ⟨r, hr⟩ := exists_eq_ok (hsame.isOk_eq.trans hplane)
  obtain ⟨source, sizes, hsizes, -⟩ := exists_readSizes_of_resolve hr
  obtain ⟨v, hv, -⟩ := except_bind_eq_ok.1 hsizes
  obtain ⟨x, -, hv⟩ := except_bind_eq_ok.1 hv
  obtain ⟨y, -, hv⟩ := except_bind_eq_ok.1 hv
  obtain ⟨z, hz, -⟩ := except_bind_eq_ok.1 hv
  have hkey : Key.localSize.axes.z ∈ Key.recognised := by decide
  have hfails : (Parameters.insert .empty Key.localSize.axes.z "1x").normalize.get? .int32
      Key.localSize.axes.z = .error (.unreadableValue "1x" .int32) := by
    have htidy : tidy "1x" = "1x" := by decide
    have hread : readValue .int32 "1x" = .error (.unreadableValue "1x" .int32) := by
      decide +kernel
    rw [normalize_insert, get?_insert hkey hkey rfl, if_pos rfl, htidy, hread]
    rfl
  cases hfails.symm.trans hz

/-- With a third local size the local sizes of a plane decide, and without it the global ones. -/
theorem not_sameGrid_of_third_given :
    ¬ SameGrid
      (resolve { Defaults.standard with dimension := 2 }
        (.insertAll .empty [("driver::local_nx", "4"), ("driver::local_ny", "5")]))
      (resolve { Defaults.standard with dimension := 2 }
        (.insertAll .empty [("driver::local_nx", "4"), ("driver::local_ny", "5"),
          ("driver::local_nz", "6")])) := by
  obtain ⟨r, hr⟩ := exists_eq_ok (x := resolve { Defaults.standard with dimension := 2 }
    (.insertAll .empty [("driver::local_nx", "4"), ("driver::local_ny", "5"),
      ("driver::local_nz", "6")])) (by decide +kernel)
  have hlocal : Extent.readLocal (Parameters.insertAll .empty [("driver::local_nx", "4"),
      ("driver::local_ny", "5"), ("driver::local_nz", "6")]).normalize = .ok (some ⟨4, 5, 6⟩) := by
    rw [normalize_insertAll]
    simp (disch := decide) only [Extent.readLocal, Parameters.insertAll, List.foldl_cons,
      List.foldl_nil, get?_insert]
    decide +kernel
  have hnone : Extent.readLocal (Parameters.insertAll .empty [("driver::local_nx", "4"),
      ("driver::local_ny", "5")]).normalize = .ok none := by
    rw [normalize_insertAll]
    simp (disch := decide) only [Extent.readLocal, Parameters.insertAll, List.foldl_cons,
      List.foldl_nil, get?_insert]
    decide +kernel
  have hglobal : Extent.readGlobal { Defaults.standard with dimension := 2 }
      (Parameters.insertAll .empty [("driver::local_nx", "4"),
        ("driver::local_ny", "5")]).normalize = .ok (.all 10) := by
    rw [normalize_insertAll]
    simp (disch := decide) only [Extent.readGlobal, Parameters.getAxes, Parameters.getD,
      Parameters.insertAll, List.foldl_cons, List.foldl_nil, get?_insert]
    decide +kernel
  refine not_sameGrid_of_decidedApart hr hlocal hnone fun global hread => ?_
  cases hglobal.symm.trans hread
  decide

/-- The third local size of a plane is seen: an unreadable one is an error, and one that reads makes
the local sizes decide where they would not. -/
theorem resolve_reads_third_axis_of_plane :
    "driver::local_nz" ∈ Key.beyond 2 ∧
      ¬ SameGrid
        (resolve { Defaults.standard with dimension := 2 } (.insert .empty "driver::local_nz" "1x"))
        (resolve { Defaults.standard with dimension := 2 } .empty) ∧
      ¬ SameGrid
        (resolve { Defaults.standard with dimension := 2 }
          (.insertAll .empty [("driver::local_nx", "4"), ("driver::local_ny", "5")]))
        (resolve { Defaults.standard with dimension := 2 }
          (.insertAll .empty [("driver::local_nx", "4"), ("driver::local_ny", "5"),
            ("driver::local_nz", "6")])) := by
  have hbeyond : Key.localSize.axes.onAxis 2 ∈ Key.beyond 2 :=
    Key.onAxis_mem_beyond localSize_mem_perAxis (by decide) (Nat.le_refl 2)
  exact ⟨hbeyond, not_sameGrid_of_unreadable_third, not_sameGrid_of_third_given⟩

end GridSetup
