import GridSetup.Proofs.Resolution.Beyond
import GridSetup.Proofs.Resolution.Precedence
import GridSetup.Proofs.Resolution.WrittenOut
import Mathlib.Logic.Equiv.Fin.Rotate

/-!
# No axis is special

Six settings have a key and a default for each axis, and the resolution of a grid
with three axes treats the axes alike. To say so, the axes are renamed by a
permutation: axis `σ a` of the renamed input has what axis `a` had, key by key and
default by default. The grid of the renamed input is then the renamed grid.

The order of the axes does show in one place, the errors. Keys are read in the
order x, y, z, and the first fault or the lowest axis without a point is reported.
So two runs cannot be compared error by error. They are compared where they
succeed, and a permutation can be undone, which gives the other direction
(`Parameters.Renamed.symm`).

A domain may single out an axis: only those without symmetry planes and with all
of them are the same after renaming. A time step that is made from the least
spacing depends on the order in which spacings that are no numbers are met, and
nothing is said about it here.
-/

namespace GridSetup

open Parameter Parameters

/-! ## Values -/

namespace PerAxis

variable {α β : Type} {σ : Equiv.Perm (Fin 3)} {v w : PerAxis α}

/-- The values with the axes renamed: axis `σ a` has the value of axis `a`. -/
def permute (σ : Equiv.Perm (Fin 3)) (v : PerAxis α) : PerAxis α :=
  ⟨v.onAxis (σ.symm 0), v.onAxis (σ.symm 1), v.onAxis (σ.symm 2)⟩

theorem ext_onAxis (h : ∀ a : Fin 3, v.onAxis a = w.onAxis a) : v = w := by
  obtain ⟨x, y, z⟩ := v
  obtain ⟨x', y', z'⟩ := w
  exact mk.injEq x y z x' y' z' ▸ ⟨h 0, h 1, h 2⟩

@[simp] theorem onAxis_permute (σ : Equiv.Perm (Fin 3)) (v : PerAxis α) (a : Fin 3) :
    (v.permute σ).onAxis (σ a) = v.onAxis a := by
  have hsymm : ∀ b : Fin 3, (v.permute σ).onAxis b = v.onAxis (σ.symm b) := by
    intro b
    match b with
    | 0 | 1 | 2 => rfl
  rw [hsymm, Equiv.symm_apply_apply]

/-- Values are the renamed ones if they are so on every axis. -/
theorem eq_permute (h : ∀ a : Fin 3, w.onAxis (σ a) = v.onAxis a) : w = v.permute σ := by
  refine ext_onAxis fun b => ?_
  obtain ⟨a, rfl⟩ := σ.surjective b
  rw [h, onAxis_permute]

@[simp] theorem permute_symm_permute (σ : Equiv.Perm (Fin 3)) (v : PerAxis α) :
    (v.permute σ).permute σ.symm = v := by
  refine (eq_permute fun a => ?_).symm
  obtain ⟨b, rfl⟩ := σ.surjective a
  rw [Equiv.symm_apply_apply, onAxis_permute]

@[simp] theorem permute_all (σ : Equiv.Perm (Fin 3)) (x : α) : (all x).permute σ = all x := by
  refine (eq_permute fun a => ?_).symm
  rw [onAxis_all, onAxis_all]

theorem onAxis_map (f : α → β) (v : PerAxis α) (axis : Nat) :
    (v.map f).onAxis axis = f (v.onAxis axis) := by
  match axis with
  | 0 | 1 | _ + 2 => rfl

theorem permute_map (f : α → β) (v : PerAxis α) :
    (v.map f).permute σ = (v.permute σ).map f := by
  refine (eq_permute fun a => ?_).symm
  rw [onAxis_map, onAxis_map, onAxis_permute]

theorem toList_map (f : α → β) (v : PerAxis α) : (v.map f).toList = v.toList.map f := rfl

end PerAxis

theorem forall_axis_iff {P : Nat → Prop} (σ : Equiv.Perm (Fin 3)) :
    (∀ axis < 3, P axis) ↔ ∀ a : Fin 3, P (σ a) := by
  constructor
  · intro h a
    exact h _ (σ a).isLt
  · intro h axis haxis
    have ha := h (σ.symm ⟨axis, haxis⟩)
    rwa [Equiv.apply_symm_apply] at ha

/-- The defaults with the axes renamed. -/
def Defaults.permuteAxes (σ : Equiv.Perm (Fin 3)) (d : Defaults) : Defaults :=
  { d with
    globalSize := d.globalSize.permute σ
    avoidOrigin := d.avoidOrigin.permute σ
    spacing := d.spacing.permute σ
    rangeMin := d.rangeMin.permute σ
    rangeMax := d.rangeMax.permute σ }

@[simp] theorem Defaults.permuteAxes_symm_permuteAxes (σ : Equiv.Perm (Fin 3)) (d : Defaults) :
    (d.permuteAxes σ).permuteAxes σ.symm = d := by
  simp [permuteAxes]

/-! ## Keys -/

namespace Key

/-- The settings and axes that have a key of their own. -/
def ofAxes : List (AxisKeys × Fin 3) :=
  perAxis.flatMap fun setting => (List.finRange 3).map fun a => (setting.1, a)

/-- The setting and the axis of a key. -/
def axisOf? (key : String) : Option (AxisKeys × Fin 3) :=
  ofAxes.find? fun e => e.1.axes.onAxis e.2 == key

/-- The key with its axis renamed; a key that is about no axis or about all of them stays. -/
def rename (σ : Equiv.Perm (Fin 3)) (key : String) : String :=
  match axisOf? key with
  | some (ks, a) => ks.axes.onAxis (σ a)
  | none => key

theorem nodup_ofAxes : (ofAxes.map fun e => e.1.axes.onAxis e.2).Nodup := by
  decide +kernel

theorem mem_ofAxes {ks : AxisKeys} {a : Fin 3} :
    (ks, a) ∈ ofAxes ↔ ∃ t, (ks, t) ∈ perAxis := by
  simp [ofAxes]

variable {σ : Equiv.Perm (Fin 3)} {ks : AxisKeys} {t : ValueType} {key : String}

theorem of_axisOf? {a : Fin 3} (h : axisOf? key = some (ks, a)) :
    (∃ t, (ks, t) ∈ perAxis) ∧ ks.axes.onAxis a = key :=
  ⟨mem_ofAxes.1 (List.mem_of_find?_eq_some h), by simpa using List.find?_some h⟩

theorem axisOf?_onAxis (h : (ks, t) ∈ perAxis) (a : Fin 3) :
    axisOf? (ks.axes.onAxis a) = some (ks, a) := by
  have hmem : (ks, a) ∈ ofAxes := mem_ofAxes.2 ⟨t, h⟩
  cases hfind : axisOf? (ks.axes.onAxis a) with
  | some e =>
      obtain ⟨-, hkey⟩ := of_axisOf? hfind
      rw [List.inj_on_of_nodup_map nodup_ofAxes (List.mem_of_find?_eq_some hfind) hmem hkey]
  | none => exact absurd (beq_self_eq_true _) (List.find?_eq_none.1 hfind _ hmem)

theorem rename_onAxis (h : (ks, t) ∈ perAxis) (a : Fin 3) :
    rename σ (ks.axes.onAxis a) = ks.axes.onAxis (σ a) := by
  rw [rename, axisOf?_onAxis h]

/-- A key is that of an axis, or renaming does not touch it. -/
theorem axis_or_rename_eq (key : String) :
    (∃ ks t, (ks, t) ∈ perAxis ∧ ∃ a : Fin 3, ks.axes.onAxis a = key) ∨
      ∀ σ, rename σ key = key := by
  cases hfind : axisOf? key with
  | some e =>
      obtain ⟨⟨t, hks⟩, hkey⟩ := of_axisOf? hfind
      exact .inl ⟨e.1, t, hks, e.2, hkey⟩
  | none =>
      refine .inr fun σ => ?_
      rw [rename, hfind]

theorem rename_of_mem_within (h : key ∈ within 0) : rename σ key = key := by
  rcases axis_or_rename_eq key with ⟨ks, t, hks, a, rfl⟩ | hsame
  · have hbeyond := onAxis_mem_beyond hks a.isLt (Nat.zero_le a)
    exact absurd hbeyond (mem_within.1 h).2
  · exact hsame σ

theorem rename_symm_rename (σ : Equiv.Perm (Fin 3)) (key : String) :
    rename σ.symm (rename σ key) = key := by
  rcases axis_or_rename_eq key with ⟨ks, t, hks, a, rfl⟩ | hsame
  · rw [rename_onAxis hks, rename_onAxis hks, Equiv.symm_apply_apply]
  · rw [hsame, hsame]

theorem rename_injective (σ : Equiv.Perm (Fin 3)) : (rename σ).Injective :=
  Function.LeftInverse.injective (rename_symm_rename σ)

theorem rename_mem_recognised (σ : Equiv.Perm (Fin 3)) (h : key ∈ recognised) :
    rename σ key ∈ recognised := by
  rcases axis_or_rename_eq key with ⟨ks, t, hks, a, rfl⟩ | hsame
  · rw [rename_onAxis hks]
    exact mem_recognised_of_types (onAxis_mem_types hks _)
  · rwa [hsame]

theorem forall_mem_toList {P : String → Prop} (ks : AxisKeys) :
    (∀ key ∈ ks.toList, P key) ↔ (∀ a : Fin 3, P (ks.axes.onAxis a)) ∧ P ks.uniform := by
  simp [AxisKeys.toList, PerAxis.toList, PerAxis.onAxis, Fin.forall_fin_succ, and_assoc]

end Key

/-! ## Parameters -/

namespace Parameters

/-- The parameters with the axes of their keys renamed. -/
def renameAxes (σ : Equiv.Perm (Fin 3)) (p : Parameters) : Parameters :=
  { p with table := p.table.renameKeys (Key.rename σ) }

/-- The recognised keys have in `q`, with their axes renamed, the values that they have in `p`. -/
def Renamed (σ : Equiv.Perm (Fin 3)) (p q : Parameters) : Prop :=
  ∀ key ∈ Key.recognised, q.value? (Key.rename σ key) = p.value? key

theorem renamed_normalize (σ : Equiv.Perm (Fin 3)) (p : Parameters) :
    Renamed σ p.normalize (p.renameAxes σ).normalize := by
  intro key hkey
  have hget := Table.get?_renameKeys (Key.rename_injective σ) p.table key
  rw [value?, value?, foldKey_of_mem_recognised hkey,
    foldKey_of_mem_recognised (Key.rename_mem_recognised σ hkey), normalize, normalize, renameAxes]
  split
  · exact hget
  · simp only [Table.get?_mapValues, hget]

variable {σ : Equiv.Perm (Fin 3)} {p q : Parameters}

theorem Renamed.symm (h : Renamed σ p q) : Renamed σ.symm q p := by
  intro key hkey
  have hback := h _ (Key.rename_mem_recognised σ.symm hkey)
  have hkey' : Key.rename σ (Key.rename σ.symm key) = key := Key.rename_symm_rename σ.symm key
  rw [hkey'] at hback
  exact hback.symm

/-- Keys that are about no single axis keep their values. -/
theorem Renamed.agreeOn (h : Renamed σ p q) : AgreeOn (Key.within 0) p q := by
  intro key hkey
  have hvalue := h key (Key.mem_within.1 hkey).1
  rw [Key.rename_of_mem_within hkey] at hvalue
  exact hvalue.symm

variable {ks : Key.AxisKeys} {t : ValueType}

theorem Renamed.value?_axis (h : Renamed σ p q) (hks : (ks, t) ∈ Key.perAxis) (a : Fin 3) :
    q.value? (ks.axes.onAxis (σ a)) = p.value? (ks.axes.onAxis a) := by
  rw [← Key.rename_onAxis hks]
  exact h _ (Key.mem_recognised_of_types (Key.onAxis_mem_types hks a))

theorem Renamed.value?_uniform (h : Renamed σ p q) (hks : (ks, t) ∈ Key.perAxis) :
    q.value? ks.uniform = p.value? ks.uniform :=
  (h.agreeOn _ (Key.uniform_mem_within hks 0)).symm

/-- What a read through keys that are about no axis gives stays the same. -/
theorem Renamed.shared_eq {α : Type} {f : Parameters → α} (h : Renamed σ p q)
    (hf : ReadsOnly Key.shared f) : f q = f p :=
  (hf.mono (Key.shared_subset_within 0) p q h.agreeOn).symm

/-! ## Settings of every axis -/

theorem getAxes_eq_ok_iff {default : PerAxis t.Carrier} {accept : t.Carrier → Bool}
    {v : PerAxis t.Carrier} :
    p.getAxes t ks default accept = .ok v ↔ ∃ (w : PerAxis t.Carrier) (u : Option t.Carrier),
      (∀ a : Fin 3, p.getD t (ks.axes.onAxis a) (default.onAxis a) = .ok (w.onAxis a)) ∧
      p.get? t ks.uniform = .ok u ∧ v = ((u.filter accept).map PerAxis.all).getD w := by
  constructor
  · intro h
    obtain ⟨x, hx, h⟩ := except_bind_eq_ok.1 h
    obtain ⟨y, hy, h⟩ := except_bind_eq_ok.1 h
    obtain ⟨z, hz, h⟩ := except_bind_eq_ok.1 h
    obtain ⟨u, hu, h⟩ := except_bind_eq_ok.1 h
    refine ⟨⟨x, y, z⟩, u, fun a => ?_, hu, ?_⟩
    · match a with
      | 0 => exact hx
      | 1 => exact hy
      | 2 => exact hz
    · cases u with
      | none =>
          cases h
          rfl
      | some n =>
          cases h
          rw [Option.filter_some]
          split
          · rfl
          · rfl
  · rintro ⟨w, u, hw, hu, rfl⟩
    have hx : p.getD t ks.axes.x default.x = .ok w.x := hw 0
    have hy : p.getD t ks.axes.y default.y = .ok w.y := hw 1
    have hz : p.getD t ks.axes.z default.z = .ok w.z := hw 2
    rw [getAxes, hx, hy, hz, hu]
    cases u with
    | none => rfl
    | some n =>
        rw [Option.filter_some]
        simp only [except_ok_bind]
        split
        · rfl
        · rfl

theorem Renamed.getAxes (h : Renamed σ p q) (hks : (ks, t) ∈ Key.perAxis)
    {default : PerAxis t.Carrier} {accept : t.Carrier → Bool} {v : PerAxis t.Carrier}
    (hv : p.getAxes t ks default accept = .ok v) :
    q.getAxes t ks (default.permute σ) accept = .ok (v.permute σ) := by
  obtain ⟨w, u, hw, hu, rfl⟩ := getAxes_eq_ok_iff.1 hv
  refine getAxes_eq_ok_iff.2 ⟨w.permute σ, u, fun b => ?_, ?_, ?_⟩
  · obtain ⟨a, rfl⟩ := σ.surjective b
    rw [PerAxis.onAxis_permute, PerAxis.onAxis_permute, ← hw a, getD, getD, get?, get?,
      h.value?_axis hks]
  · rw [← hu, get?, get?, h.value?_uniform hks]
  · cases u.filter accept with
    | none => rfl
    | some n => exact PerAxis.permute_all σ n

end Parameters

/-! ## The extent -/

namespace Extent

variable {σ : Equiv.Perm (Fin 3)} {d : Defaults} {p q : Parameters} {ks : Key.AxisKeys}

theorem sizeOn?_renamed (h : Renamed σ p q) (hks : (ks, .int32) ∈ Key.perAxis) (a : Fin 3) :
    q.sizeOn? ks (σ a) = p.sizeOn? ks a := by
  rw [sizeOn?, sizeOn?, size?, size?, size?, size?, h.value?_axis hks, h.value?_uniform hks]

theorem allReadable_renamed (h : Renamed σ p q) (hks : (ks, .int32) ∈ Key.perAxis)
    (hp : p.AllReadable ks.toList) : q.AllReadable ks.toList := by
  obtain ⟨haxes, huniform⟩ := (Key.forall_mem_toList ks).1 hp
  refine (Key.forall_mem_toList ks).2 ⟨fun b => ?_, ?_⟩
  · obtain ⟨a, rfl⟩ := σ.surjective b
    intro value
    rw [Unreadable, size?, h.value?_axis hks]
    exact haxes a value
  · intro value
    rw [Unreadable, size?, h.value?_uniform hks]
    exact huniform value

theorem localSizes_renamed (h : Renamed σ p q) {sizes : PerAxis Int32} (hp : LocalSizes p sizes) :
    LocalSizes q (sizes.permute σ) := by
  refine (forall_axis_iff σ).2 fun a => ?_
  rw [sizeOn?_renamed h localSize_mem_perAxis, PerAxis.onAxis_permute]
  exact hp a a.isLt

theorem chosen_renamed (h : Renamed σ p q) {source : SizeSource} {sizes : PerAxis Int32}
    (hp : Chosen d p source sizes) : Chosen (d.permuteAxes σ) q source (sizes.permute σ) := by
  have hlocalSize := localSize_mem_perAxis
  have hglobalSize : (Key.globalSize, .int32) ∈ Key.perAxis := List.mem_cons_self
  cases hp with
  | localKeys hlocal hsizes =>
      exact .localKeys (allReadable_renamed h hlocalSize hlocal) (localSizes_renamed h hsizes)
  | globalKeys hlocal hnone hglobal hsizes =>
      refine .globalKeys (allReadable_renamed h hlocalSize hlocal) (fun sizes hq => ?_)
        (allReadable_renamed h hglobalSize hglobal) ?_
      · exact hnone _ (localSizes_renamed h.symm hq)
      · refine (forall_axis_iff σ).2 fun a => ?_
        have hdefault : (d.permuteAxes σ).globalSize = d.globalSize.permute σ := rfl
        rw [sizeOn?_renamed h hglobalSize, hdefault, PerAxis.onAxis_permute,
          PerAxis.onAxis_permute]
        exact hsizes a a.isLt

theorem read_renamed (h : Renamed σ p q) {e : Extent} (he : read d p 3 = .ok e) :
    ∃ source, ∃ sizes : PerAxis Int32, e = ⟨source, sizes.toList⟩ ∧
      read (d.permuteAxes σ) q 3 = .ok ⟨source, (sizes.permute σ).toList⟩ := by
  cases (decides_iff (Nat.le_refl 3)).1 he with
  | @sized source sizes hchosen hsizes =>
      refine ⟨source, sizes, rfl, (decides_iff (Nat.le_refl 3)).2 ?_⟩
      refine .sized (chosen_renamed h hchosen) ((forall_axis_iff σ).2 fun a => ?_)
      rw [PerAxis.onAxis_permute]
      exact hsizes a a.isLt

end Extent

/-! ## The geometry -/

section

variable {σ : Equiv.Perm (Fin 3)} {d : Defaults} {p q : Parameters}

/-- The choices of a geometry with the axes renamed. -/
def Geometry.permuteAxes (σ : Equiv.Perm (Fin 3)) (g : Geometry) : Geometry :=
  { g with avoidOrigin := g.avoidOrigin.permute σ }

/-- Coordinates with the axes renamed. -/
def Coordinates.permuteAxes (σ : Equiv.Perm (Fin 3)) : Coordinates → Coordinates
  | .unitBox => .unitBox
  | .range first last => .range (first.permute σ) (last.permute σ)
  | .spaced spacing => .spaced (spacing.permute σ)

theorem Geometry.read_renamed (h : Renamed σ p q) {g : Geometry} (hg : Geometry.read d p = .ok g) :
    Geometry.read (d.permuteAxes σ) q = .ok (g.permuteAxes σ) := by
  obtain ⟨gridType, htype, hg⟩ := except_bind_eq_ok.1 hg
  obtain ⟨domain, hdomain, hg⟩ := except_bind_eq_ok.1 hg
  obtain ⟨avoidOrigin, havoid, hg⟩ := except_bind_eq_ok.1 hg
  cases hg
  have htype' := (h.shared_eq (readsOnly_getChoiceD (by decide) d.gridType)).trans htype
  have hdomain' := (h.shared_eq (readsOnly_getChoiceD (by decide) d.domain)).trans hdomain
  have havoid' := h.getAxes (by simp [Key.perAxis]) havoid
  exact except_bind_eq_ok.2 ⟨_, htype', except_bind_eq_ok.2 ⟨_, hdomain',
    except_bind_eq_ok.2 ⟨_, havoid', rfl⟩⟩⟩

theorem Coordinates.read_renamed (h : Renamed σ p q) {t : GridType} {c : Coordinates}
    (hc : Coordinates.read d p t = .ok c) :
    Coordinates.read (d.permuteAxes σ) q t = .ok (c.permuteAxes σ) := by
  cases t with
  | box =>
      cases hc
      rfl
  | byRange =>
      obtain ⟨first, hfirst, hc⟩ := except_bind_eq_ok.1 hc
      obtain ⟨last, hlast, hc⟩ := except_bind_eq_ok.1 hc
      cases hc
      have hfirst' := h.getAxes (by simp [Key.perAxis]) hfirst
      have hlast' := h.getAxes (by simp [Key.perAxis]) hlast
      exact except_bind_eq_ok.2 ⟨_, hfirst', except_bind_eq_ok.2 ⟨_, hlast', rfl⟩⟩
  | bySpacing =>
      obtain ⟨spacing, hspacing, hc⟩ := except_bind_eq_ok.1 hc
      cases hc
      have hspacing' := h.getAxes (by simp [Key.perAxis]) hspacing
      exact except_bind_eq_ok.2 ⟨_, hspacing', rfl⟩

theorem Coordinates.points_permuteAxes (c : Coordinates) (a : Fin 3) (size : Int32) (avoid : Bool) :
    (c.permuteAxes σ).points (σ a) size avoid = c.points a size avoid := by
  cases c with
  | unitBox => rfl
  | range first last => simp only [permuteAxes, points, PerAxis.onAxis_permute]
  | spaced spacing => simp only [permuteAxes, points, PerAxis.onAxis_permute]

/-- A domain without symmetry planes or with all of them. -/
def Domain.Uniform (domain : Domain) : Prop :=
  domain = .full ∨ domain = .octant

theorem Domain.Uniform.mirrors_eq {domain : Domain} (h : domain.Uniform) (a b : Fin 3) :
    domain.mirrors a = domain.mirrors b := by
  rcases h with rfl | rfl
  · rfl
  · revert a b
    decide

theorem Geometry.points_permuteAxes {g : Geometry} (hg : g.domain.Uniform) (c : Coordinates)
    (a : Fin 3) (size : Int32) :
    (g.permuteAxes σ).points (c.permuteAxes σ) (σ a) size = g.points c a size := by
  have hmirrors : g.domain.mirrors (σ a) = g.domain.mirrors a := hg.mirrors_eq _ _
  simp only [points, permuteAxes, hmirrors, PerAxis.onAxis_permute,
    Coordinates.points_permuteAxes]

/-- The points of three axes. -/
def Geometry.pointsOn (g : Geometry) (c : Coordinates) (sizes : PerAxis Int32) :
    PerAxis AxisPoints :=
  ⟨g.points c 0 sizes.x, g.points c 1 sizes.y, g.points c 2 sizes.z⟩

theorem Geometry.pointsFrom_toList (g : Geometry) (c : Coordinates) (sizes : PerAxis Int32) :
    g.pointsFrom c 0 sizes.toList = (g.pointsOn c sizes).toList := rfl

theorem Geometry.onAxis_pointsOn (g : Geometry) (c : Coordinates) (sizes : PerAxis Int32)
    (a : Fin 3) : (g.pointsOn c sizes).onAxis a = g.points c a (sizes.onAxis a) := by
  match a with
  | 0 | 1 | 2 => rfl

theorem Geometry.pointsOn_permute {g : Geometry} (hg : g.domain.Uniform) (c : Coordinates)
    (sizes : PerAxis Int32) :
    (g.permuteAxes σ).pointsOn (c.permuteAxes σ) (sizes.permute σ) =
      (g.pointsOn c sizes).permute σ := by
  refine PerAxis.eq_permute fun a => ?_
  rw [onAxis_pointsOn, onAxis_pointsOn, PerAxis.onAxis_permute, points_permuteAxes hg]

end

/-! ## The grid -/

/-- Lists with one entry for each of three axes, the second with the axes renamed. -/
def PermutedLists {α : Type} (σ : Equiv.Perm (Fin 3)) (xs ys : List α) : Prop :=
  ∃ v : PerAxis α, xs = v.toList ∧ ys = (v.permute σ).toList

theorem PermutedLists.map {α β : Type} {σ : Equiv.Perm (Fin 3)} {xs ys : List α}
    (h : PermutedLists σ xs ys) (f : α → β) : PermutedLists σ (xs.map f) (ys.map f) := by
  obtain ⟨v, rfl, rfl⟩ := h
  exact ⟨v.map f, PerAxis.toList_map f v, by rw [PerAxis.permute_map, PerAxis.toList_map]⟩

theorem PermutedLists.replicate {α : Type} (σ : Equiv.Perm (Fin 3)) (x : α) :
    PermutedLists σ (List.replicate 3 x) (List.replicate 3 x) :=
  ⟨.all x, rfl, by rw [PerAxis.permute_all]; rfl⟩

/-- Two hierarchies are the same up to the names of the axes and the time step. -/
structure Hierarchy.Renamed (σ : Equiv.Perm (Fin 3)) (h h' : Hierarchy) : Prop where
  dimension : h'.dimension = h.dimension
  iteration : h'.iteration = h.iteration
  time : h'.time = h.time
  identity : h'.identity = h.identity
  boundaryFlags : h'.boundaryFlags = h.boundaryFlags
  ints : ∀ f, f ≠ .boundaryFlags → PermutedLists σ (h.ints f) (h'.ints f)
  reals : ∀ f, PermutedLists σ (h.reals f) (h'.reals f)

section

variable {σ : Equiv.Perm (Fin 3)} {d : Defaults} {p q : Parameters}

theorem Hierarchy.renamed_withGeometry {g : Geometry} (hg : g.domain.Uniform) (c : Coordinates)
    (source : SizeSource) (sizes : PerAxis Int32) (deltaTime deltaTime' : Float) :
    Hierarchy.Renamed σ
      { ((Hierarchy.seeded 3).withExtent ⟨source, sizes.toList⟩).withGeometry g c with deltaTime }
      { ((Hierarchy.seeded 3).withExtent ⟨source, (sizes.permute σ).toList⟩).withGeometry
          (g.permuteAxes σ) (c.permuteAxes σ) with deltaTime := deltaTime' } where
  dimension := rfl
  iteration := rfl
  time := rfl
  identity := rfl
  boundaryFlags := rfl
  ints f hf := by
    have hsizes : PermutedLists σ sizes.toList (sizes.permute σ).toList := ⟨sizes, rfl, rfl⟩
    cases f with
    | globalSize | localSize => exact hsizes
    | lowerBound => exact hsizes.map fun _ => 0
    | upperBound => exact hsizes.map (· - 1)
    | boundaryFlags => exact absurd rfl hf
    | levelFactor | levelOffset | levelOffsetDenominator | ghostZones => exact .replicate σ _
  reals f := by
    have hpoints : PermutedLists σ (g.pointsFrom c 0 sizes.toList)
        ((g.permuteAxes σ).pointsFrom (c.permuteAxes σ) 0 (sizes.permute σ).toList) := by
      refine ⟨g.pointsOn c sizes, rfl, ?_⟩
      rw [Geometry.pointsFrom_toList, Geometry.pointsOn_permute hg]
    cases f with
    | deltaSpace | originSpace => exact hpoints.map _

theorem TimeStepMethod.keys_subset_shared (method : TimeStepMethod) :
    method.keys ⊆ Key.shared := by
  cases method <;> decide +kernel

/-- A time step does not look at the settings of axes. -/
theorem TimeStepMethod.step_renamed (h : Parameters.Renamed σ p q) (method : TimeStepMethod)
    (k : Hierarchy) : method.step (d.permuteAxes σ) q k = method.step d p k :=
  h.shared_eq ((method.readsOnly_step d k).mono method.keys_subset_shared)

/-- Whether there is a time step does not depend on the spacing. -/
theorem TimeStepMethod.exists_step (method : TimeStepMethod) {k : Hierarchy} (k' : Hierarchy)
    {deltaTime : Float} (h : method.step d p k = .ok deltaTime) :
    ∃ deltaTime', method.step d p k' = .ok deltaTime' := by
  rw [step] at h
  obtain ⟨stepFactor, hstep, h⟩ := except_bind_eq_ok.1 h
  obtain ⟨courantFactor, hcourant, h⟩ := except_bind_eq_ok.1 h
  rw [step, hstep, hcourant, except_ok_bind, except_ok_bind]
  cases method with
  | given => exact ⟨_, h⟩
  | courantStatic => exact ⟨_, rfl⟩
  | courantSpeed =>
      obtain ⟨speed, hspeed, -⟩ := except_bind_eq_ok.1 h
      exact ⟨_, except_bind_eq_ok.2 ⟨speed, hspeed, rfl⟩⟩
  | courantTime =>
      obtain ⟨time, htime, -⟩ := except_bind_eq_ok.1 h
      exact ⟨_, except_bind_eq_ok.2 ⟨time, htime, rfl⟩⟩

/-- The methods whose time step does not depend on the spacing. -/
theorem TimeStepMethod.step_unique (method : TimeStepMethod)
    (hmethod : method ∈ [given, courantTime]) {k k' : Hierarchy} {deltaTime deltaTime' : Float}
    (h : method.step d p k = .ok deltaTime) (h' : method.step d p k' = .ok deltaTime')
    (hdimension : k'.dimension = k.dimension) : deltaTime' = deltaTime := by
  have hsame : method.step d p k' = method.step d p k := by
    simp only [List.mem_cons, List.not_mem_nil, or_false] at hmethod
    rcases hmethod with rfl | rfl
    · rfl
    · rw [step, step, hdimension]
  exact Except.ok.inj (h'.symm.trans (hsame.trans h))

/-- Two resolutions are the same up to the names of the axes, but for a time step that depends on
the spacing. -/
structure Resolution.Renamed (σ : Equiv.Perm (Fin 3)) (d : Defaults) (r s : Resolution) : Prop where
  hierarchy : r.hierarchy.Renamed σ s.hierarchy
  lastIteration : s.lastIteration = r.lastIteration
  deltaTime : ∀ method ∈ [TimeStepMethod.given, .courantTime],
    TimeStepMethod.read d r.parameters = .ok method →
      s.hierarchy.deltaTime = r.hierarchy.deltaTime

theorem resolve_renamed (h : Parameters.Renamed σ p.normalize q.normalize) (hd : d.dimension = 3)
    (hdomain : ∀ domain, p.normalize.getChoiceD Key.domain d.domain = .ok domain → domain.Uniform)
    {r : Resolution} (hr : resolve d p = .ok r) :
    ∃ s, resolve (d.permuteAxes σ) q = .ok s ∧ r.Renamed σ d s := by
  obtain ⟨start, last, e, g, c, deltaTime, hseed, hlast, he, hg, hc, htime, rfl⟩ :=
    resolve_eq_ok.1 hr
  obtain ⟨hle, hstart⟩ := Hierarchy.seed_eq_ok hseed
  rw [hd] at hstart
  subst hstart
  obtain ⟨source, sizes, rfl, he'⟩ := Extent.read_renamed h he
  have hgeometry := Geometry.read_renamed h hg
  have hcoordinates := Coordinates.read_renamed h hc
  have huniform : g.domain.Uniform := by
    obtain ⟨gridType, -, hg⟩ := except_bind_eq_ok.1 hg
    obtain ⟨domain, hread, hg⟩ := except_bind_eq_ok.1 hg
    obtain ⟨avoidOrigin, -, hg⟩ := except_bind_eq_ok.1 hg
    cases hg
    exact hdomain domain hread
  obtain ⟨method, hmethod, hstep⟩ := except_bind_eq_ok.1 htime
  have hmethod' : TimeStepMethod.read (d.permuteAxes σ) q.normalize = .ok method :=
    (h.shared_eq (readsOnly_getChoiceD (by decide) d.method)).trans hmethod
  have hlast' : readLastIteration q.normalize = .ok last :=
    (h.shared_eq (readsOnly_readLastIteration.mono (by decide))).trans hlast
  obtain ⟨deltaTime', hdeltaTime⟩ := method.exists_step
    (((Hierarchy.seeded 3).withExtent ⟨source, (sizes.permute σ).toList⟩).withGeometry
      (g.permuteAxes σ) (c.permuteAxes σ)) hstep
  refine ⟨_, resolve_eq_ok.2 ⟨_, last, _, g.permuteAxes σ, c.permuteAxes σ, deltaTime', hseed,
    hlast', he', hgeometry, hcoordinates, ?_, rfl⟩, ?_⟩
  · rw [timeStep, hmethod']
    exact (method.step_renamed h _).trans hdeltaTime
  · refine ⟨Hierarchy.renamed_withGeometry huniform c source sizes deltaTime deltaTime', rfl, ?_⟩
    intro method' hfree hread
    have hsame : method' = method := Except.ok.inj (hread.symm.trans hmethod)
    subst hsame
    exact method'.step_unique hfree hstep hdeltaTime rfl

end

/-- The axes of a grid with three of them are interchangeable. With the axes of all keys and
defaults renamed, a resolution succeeds exactly if it did before, and gives the same grid with the
axes renamed. -/
theorem resolve_axes_interchangeable (σ : Equiv.Perm (Fin 3)) (d : Defaults) (p : Parameters)
    (hd : d.dimension = 3)
    (hdomain : ∀ domain, p.normalize.getChoiceD Key.domain d.domain = .ok domain →
      domain = .full ∨ domain = .octant) :
    ((∃ s, resolve (d.permuteAxes σ) (p.renameAxes σ) = .ok s) ↔ ∃ r, resolve d p = .ok r) ∧
      ∀ r s, resolve d p = .ok r → resolve (d.permuteAxes σ) (p.renameAxes σ) = .ok s →
        r.Renamed σ d s := by
  have hrenamed := renamed_normalize σ p
  refine ⟨⟨?_, ?_⟩, ?_⟩
  · rintro ⟨s, hs⟩
    have hread : (p.renameAxes σ).normalize.getChoiceD Key.domain d.domain =
        p.normalize.getChoiceD Key.domain d.domain :=
      hrenamed.shared_eq (readsOnly_getChoiceD (by decide) d.domain)
    have hdomain' := fun domain h => hdomain domain (hread.symm.trans h)
    have hd' : (d.permuteAxes σ).dimension = 3 := hd
    obtain ⟨r, hr, -⟩ := resolve_renamed hrenamed.symm hd' hdomain' hs
    rw [Defaults.permuteAxes_symm_permuteAxes] at hr
    exact ⟨r, hr⟩
  · rintro ⟨r, hr⟩
    obtain ⟨s, hs, -⟩ := resolve_renamed hrenamed hd hdomain hr
    exact ⟨s, hs⟩
  · intro r s hr hs
    obtain ⟨s', hs', hsame⟩ := resolve_renamed hrenamed hd hdomain hr
    rw [hs] at hs'
    cases hs'
    exact hsame

/-- Three different sizes under the keys of their axes, and the axes moved on by one. -/
theorem resolve_axes_interchangeable_rotation :
    ∃ p r s, p = (Parameters.normalize .empty).writeOut
        { Defaults.standard with globalSize := ⟨4, 5, 6⟩ } ∧
      resolve .standard p = .ok r ∧
      resolve (Defaults.standard.permuteAxes (finRotate 3)) (p.renameAxes (finRotate 3)) = .ok s ∧
      r.Renamed (finRotate 3) .standard s := by
  let d : Defaults := { Defaults.standard with globalSize := ⟨4, 5, 6⟩ }
  let p : Parameters := (Parameters.normalize .empty).writeOut d
  have hp : p.normalize = p := normalize_insertAllMissing _ d.texts
  have hdomain : p.normalize.getChoiceD Key.domain Defaults.standard.domain = .ok .full := by
    rw [hp]
    exact getChoiceD_writeOut rfl (by decide) (by decide) (by decide) _
  have hgrid : SameGrid (resolve .standard p) (resolve d .empty) := by
    refine sameGrid_of_map_grid ?_
    rw [map_grid_resolve, map_grid_resolve, hp]
    exact resolveGrid_writeOut (d := d) rfl .box .full .courantStatic (.all 10) (.all true)
  obtain ⟨r, hr⟩ := exists_eq_ok (hgrid.isOk_eq.trans (by decide +kernel))
  obtain ⟨hsucceeds, hrenamed⟩ := resolve_axes_interchangeable (finRotate 3) .standard p rfl
    fun domain h => .inl (Except.ok.inj (h.symm.trans hdomain))
  obtain ⟨s, hs⟩ := hsucceeds.2 ⟨r, hr⟩
  exact ⟨p, r, s, rfl, hr, hs, hrenamed r s hr hs⟩

end GridSetup
