import GridSetup.Proofs.Parameters.Entries
import GridSetup.Proofs.Resolution.Stages
import GridSetup.Proofs.Text.AsciiCase

/-!
# Resolution reads the recognised keys and no others

A part of a resolution sees the parameters through typed look-ups under fixed keys. `ReadsOnly` says
this without mentioning the look-ups: on parameters that agree under the keys, the part ends alike,
with the same result or with the same error. It passes from the parts of a sequence to the sequence
(`ReadsOnly.bind`), so what a part reads is found by going through it step by step, branches
included, and each part gets its keys: `Extent.keys`, `Geometry.keys`, those of a grid type and those
of a time step method.

All of these are recognised keys, and that is the theorem. A grid is determined by the values of the
recognised keys, after tidying. Everything else among the parameters is carried along to the
resolution, and nothing looks at it.
-/

namespace GridSetup

open Parameter Text

namespace Parameters

/-- Two parameters have the same values under some keys, or none. -/
def AgreeOn (keys : List String) (p q : Parameters) : Prop :=
  ∀ key ∈ keys, p.value? key = q.value? key

/-- What is read of parameters is determined by their values under some keys. -/
def ReadsOnly {α : Type} (keys : List String) (f : Parameters → α) : Prop :=
  ∀ p q, AgreeOn keys p q → f p = f q

section

variable {α β : Type} {keys : List String}

theorem ReadsOnly.mono {keys' : List String} {f : Parameters → α} (h : ReadsOnly keys f)
    (hsub : keys ⊆ keys') : ReadsOnly keys' f := by
  intro p q hpq
  exact h p q fun key hkey => hpq key (hsub hkey)

theorem ReadsOnly.const (a : α) : ReadsOnly keys fun _ => a := by
  intro p q hpq
  rfl

theorem ReadsOnly.comp {f : Parameters → α} (h : ReadsOnly keys f) (g : α → β) :
    ReadsOnly keys fun p => g (f p) := by
  intro p q hpq
  exact congrArg g (h p q hpq)

theorem ReadsOnly.bind {x : Parameters → Except Error α} {f : α → Parameters → Except Error β}
    (hx : ReadsOnly keys x) (hf : ∀ a, ReadsOnly keys (f a)) :
    ReadsOnly keys fun p => x p >>= fun a => f a p := by
  intro p q hpq
  have hnext : (fun a => f a p) = fun a => f a q := by
    funext a
    exact hf a p q hpq
  show (x p >>= fun a => f a p) = x q >>= fun a => f a q
  rw [hx p q hpq, hnext]

/-! ## Look-ups -/

theorem readsOnly_get? (t : ValueType) {key : String} (h : key ∈ keys) :
    ReadsOnly keys fun p => p.get? t key := by
  intro p q hpq
  show p.get? t key = q.get? t key
  rw [get?, get?, hpq key h]

theorem readsOnly_getD (t : ValueType) {key : String} (h : key ∈ keys) (default : t.Carrier) :
    ReadsOnly keys fun p => p.getD t key default :=
  (readsOnly_get? t h).comp fun x => x.map (Option.getD · default)

theorem readsOnly_getChoiceD [Choice α] {key : String} (h : key ∈ keys) (default : α) :
    ReadsOnly keys fun p => p.getChoiceD key default := by
  refine (readsOnly_get? .word h).bind fun word => ?_
  cases word with
  | none => exact .const _
  | some w => exact .const _

theorem readsOnly_getAxes (t : ValueType) {ks : Key.AxisKeys} (h : ks.toList ⊆ keys)
    (default : PerAxis t.Carrier) (accept : t.Carrier → Bool) :
    ReadsOnly keys fun p => p.getAxes t ks default accept := by
  have hx : ks.axes.x ∈ keys := h (by simp [Key.AxisKeys.toList, PerAxis.toList])
  have hy : ks.axes.y ∈ keys := h (by simp [Key.AxisKeys.toList, PerAxis.toList])
  have hz : ks.axes.z ∈ keys := h (by simp [Key.AxisKeys.toList, PerAxis.toList])
  have huniform : ks.uniform ∈ keys := h (by simp [Key.AxisKeys.toList])
  refine (readsOnly_getD t hx _).bind fun x => ?_
  refine (readsOnly_getD t hy _).bind fun y => ?_
  refine (readsOnly_getD t hz _).bind fun z => ?_
  refine (readsOnly_get? t huniform).bind fun uniform => ?_
  cases uniform with
  | none => exact .const _
  | some u => exact .const _

end

end Parameters

open Parameters

/-! ## The keys of each part -/

theorem readsOnly_readLastIteration : ReadsOnly [Key.lastIteration] readLastIteration :=
  readsOnly_get? .nat32 (List.mem_singleton.2 rfl)

namespace Extent

/-- The keys that the extent is read from. -/
def keys : List String :=
  Key.localSize.toList ++ Key.globalSize.toList

theorem readsOnly_readLocal : ReadsOnly Key.localSize.toList readLocal := by
  refine (readsOnly_get? .int32 (by decide)).bind fun x => ?_
  refine (readsOnly_get? .int32 (by decide)).bind fun y => ?_
  refine (readsOnly_get? .int32 (by decide)).bind fun z => ?_
  exact (readsOnly_get? .int32 (by decide)).bind fun uniform => .const _

theorem readsOnly_readSizes (d : Defaults) : ReadsOnly keys (readSizes d) := by
  refine (readsOnly_readLocal.mono (List.subset_append_left _ _)).bind fun sizes => ?_
  cases sizes with
  | some sizes => exact .const _
  | none =>
      have hglobal : ReadsOnly keys (readGlobal d) :=
        readsOnly_getAxes .int32 (List.subset_append_right _ _) _ _
      exact hglobal.bind fun sizes => .const _

theorem readsOnly_read (d : Defaults) (dimension : Nat) :
    ReadsOnly keys fun p => read d p dimension :=
  (readsOnly_readSizes d).bind fun _ => .const _

end Extent

/-- The keys that the choices of a geometry are read from. -/
def Geometry.keys : List String :=
  [Key.gridType, Key.domain] ++ Key.avoidOrigin.toList

theorem Geometry.readsOnly_read (d : Defaults) : ReadsOnly Geometry.keys (Geometry.read d) := by
  refine (readsOnly_getChoiceD (by decide) _).bind fun gridType => ?_
  refine (readsOnly_getChoiceD (by decide) _).bind fun domain => ?_
  exact (readsOnly_getAxes .flag (List.subset_append_right _ _) _ _).bind fun avoidOrigin => .const _

/-- The keys that the coordinates of a grid type are read from. -/
def GridType.keys : GridType → List String
  | .box => []
  | .byRange => Key.rangeMin.toList ++ Key.rangeMax.toList
  | .bySpacing => Key.spacing.toList

theorem Coordinates.readsOnly_read (d : Defaults) (gridType : GridType) :
    ReadsOnly gridType.keys fun p => Coordinates.read d p gridType := by
  cases gridType with
  | box => exact .const _
  | byRange =>
      refine (readsOnly_getAxes .double (List.subset_append_left _ _) _ _).bind fun first => ?_
      exact (readsOnly_getAxes .double (List.subset_append_right _ _) _ _).bind fun last => .const _
  | bySpacing =>
      exact (readsOnly_getAxes .double (List.Subset.refl _) _ _).bind fun spacing => .const _

/-- The keys that a time step is read from by one method, the two factors that every method reads
among them. -/
def TimeStepMethod.keys : TimeStepMethod → List String
  | .given => [Key.stepFactor, Key.courantFactor, Key.timeStep]
  | .courantStatic => [Key.stepFactor, Key.courantFactor]
  | .courantSpeed => [Key.stepFactor, Key.courantFactor, Key.waveSpeed]
  | .courantTime => [Key.stepFactor, Key.courantFactor, Key.crossingTime]

theorem readsOnly_getNeeded {keys : List String} (method : TimeStepMethod) {key : String}
    (h : key ∈ keys) : ReadsOnly keys fun p => p.getNeeded method key := by
  refine (readsOnly_get? .double h).bind fun value => ?_
  cases value with
  | none => exact .const _
  | some v => exact .const _

theorem TimeStepMethod.readsOnly_step (method : TimeStepMethod) (d : Defaults) (h : Hierarchy) :
    ReadsOnly method.keys fun p => method.step d p h := by
  have hstep : Key.stepFactor ∈ method.keys := by cases method <;> decide
  have hcourant : Key.courantFactor ∈ method.keys := by cases method <;> decide
  refine (readsOnly_getD .double hstep _).bind fun stepFactor => ?_
  refine (readsOnly_getD .double hcourant _).bind fun courantFactor => ?_
  cases method with
  | given => exact readsOnly_getNeeded .given (by decide)
  | courantStatic => exact .const _
  | courantSpeed => exact (readsOnly_getNeeded .courantSpeed (by decide)).bind fun speed => .const _
  | courantTime => exact (readsOnly_getD .double (by decide) _).bind fun time => .const _

/-! ## The whole -/

/-- A resolution without its parameters. -/
def Resolution.grid (r : Resolution) : Hierarchy × Option UInt32 :=
  (r.hierarchy, r.lastIteration)

/-- The grid that tidy parameters and defaults describe, and its last iteration. -/
def resolveGrid (d : Defaults) (p : Parameters) : Except Error (Hierarchy × Option UInt32) := do
  let h ← Hierarchy.seed d
  let lastIteration ← readLastIteration p
  let extent ← Extent.read d p h.dimension
  let geometry ← Geometry.read d p
  let coordinates ← Coordinates.read d p geometry.gridType
  let method ← TimeStepMethod.read d p
  let h := (h.withExtent extent).withGeometry geometry coordinates
  let deltaTime ← method.step d p h
  return ({ h with deltaTime }, lastIteration)

theorem map_grid_resolve (d : Defaults) (p : Parameters) :
    (resolve d p).map Resolution.grid = resolveGrid d p.normalize := by
  rw [resolve, resolveGrid]
  simp only [except_map_bind, timeStep, bind_assoc]
  rfl

theorem readsOnly_resolveGrid (d : Defaults) : ReadsOnly Key.recognised (resolveGrid d) := by
  refine (ReadsOnly.const _).bind fun h => ?_
  refine (readsOnly_readLastIteration.mono (by decide)).bind fun last => ?_
  refine ((Extent.readsOnly_read d _).mono (by decide)).bind fun extent => ?_
  refine ((Geometry.readsOnly_read d).mono (by decide)).bind fun geometry => ?_
  have hcoordinates : geometry.gridType.keys ⊆ Key.recognised := by
    cases geometry.gridType <;> decide
  refine ((Coordinates.readsOnly_read d _).mono hcoordinates).bind fun coordinates => ?_
  refine (readsOnly_getChoiceD (by decide) _).bind fun method => ?_
  have hmethod : method.keys ⊆ Key.recognised := by cases method <;> decide
  exact ((method.readsOnly_step d _).mono hmethod).bind fun deltaTime => .const _

/-! ## Two resolutions -/

/-- Two outcomes are the same grid or the same error, whatever parameters they carry. -/
inductive SameGrid : Except Error Resolution → Except Error Resolution → Prop where
  | error (e : Error) : SameGrid (.error e) (.error e)
  | ok {r s : Resolution} : r.hierarchy = s.hierarchy → r.lastIteration = s.lastIteration →
      SameGrid (.ok r) (.ok s)

theorem SameGrid.isOk_eq {x y : Except Error Resolution} (h : SameGrid x y) :
    x.isOk = y.isOk := by
  cases h with
  | error e => rfl
  | ok hh hl => rfl

theorem sameGrid_of_map_grid {x y : Except Error Resolution}
    (h : x.map Resolution.grid = y.map Resolution.grid) : SameGrid x y := by
  cases x with
  | error e =>
      cases y with
      | error e' =>
          cases h
          exact .error e
      | ok s => cases h
  | ok r =>
      cases y with
      | error e => cases h
      | ok s =>
          have hgrid : r.grid = s.grid := Except.ok.inj h
          exact .ok (congrArg Prod.fst hgrid) (congrArg Prod.snd hgrid)

theorem sameGrid_of_agreeOn {p q : Parameters}
    (h : AgreeOn Key.recognised p.normalize q.normalize) (d : Defaults) :
    SameGrid (resolve d p) (resolve d q) := by
  refine sameGrid_of_map_grid ?_
  rw [map_grid_resolve, map_grid_resolve]
  exact readsOnly_resolveGrid d _ _ h

theorem foldKey_of_mem_recognised {key : String} (h : key ∈ Key.recognised) :
    foldKey key = key := by
  have hall : ∀ k ∈ Key.recognised,
      (k.toList.all fun c => decide (c.toNat < 128 ∧ ¬('A' ≤ c ∧ c ≤ 'Z'))) = true := by
    decide +kernel
  rw [foldKey, lowercase_eq_self, String.ofList_toList]
  intro c hc
  obtain ⟨hascii, hcapital⟩ := forall_mem_of_all (hall key h) c hc
  exact isLower_of_ascii hascii hcapital

theorem agreeOn_recognised_iff {p q : Parameters} :
    AgreeOn Key.recognised p q ↔ ∀ key ∈ Key.recognised, p.table.get? key = q.table.get? key := by
  refine forall₂_congr fun key hkey => ?_
  rw [value?, value?, foldKey_of_mem_recognised hkey]

theorem agreeOn_insert {key : String} (h : foldKey key ∉ Key.recognised) (p : Parameters)
    (value : String) : AgreeOn Key.recognised (p.insert key value) p := by
  refine agreeOn_recognised_iff.2 fun k hk => ?_
  have hne : k ≠ foldKey key := by
    rintro rfl
    exact h hk
  rw [Parameters.insert, Table.get?_insert, if_neg hne]

/-- Parameters that agree under the recognised keys, once tidied, resolve to the same grid or fail
with the same error. All of them reach the resolution, tidy, and to set another parameter does not
change the grid. -/
theorem resolve_reads_recognised_only (d : Defaults) :
    (∀ p q : Parameters, AgreeOn Key.recognised p.normalize q.normalize →
      SameGrid (resolve d p) (resolve d q)) ∧
    (∀ (p : Parameters) (r : Resolution), resolve d p = .ok r →
      r.parameters.normalized = true ∧ r.parameters.entries =
        if p.normalized then p.entries else p.entries.map fun e => (e.1, tidy e.2)) ∧
    ∀ (p : Parameters) (key value : String), foldKey key ∉ Key.recognised →
      SameGrid (resolve d (p.insert key value)) (resolve d p) := by
  refine ⟨fun p q h => sameGrid_of_agreeOn h d, fun p r hr => ?_, fun p key value h => ?_⟩
  · rw [resolve_parameters hr]
    exact ⟨normalized_normalize p, p.entries_normalize⟩
  · refine sameGrid_of_agreeOn ?_ d
    rw [normalize_insert]
    exact agreeOn_insert h p.normalize value

/-- A last iteration under a key with the Kelvin sign in it, next to a note, and the same one tidied
and without the note. -/
theorem resolve_reads_recognised_only_kelvin :
    SameGrid
        (resolve .standard (.ofPairs [("cactus::cct\u212a_itlast", "\"7\""), ("my::note", "a")]))
        (resolve .standard (.normalize (.ofPairs [("Cactus::cctk_itlast", " 7 ")]))) ∧
      SameGrid (resolve .standard (.ofPairs [("My::Note", " a")])) (resolve .standard .empty) ∧
      ∃ r, resolve .standard (.ofPairs [("My::Note", " a")]) = .ok r ∧
        r.parameters.normalized = true ∧ r.parameters.entries = [("my::note", "a")] := by
  obtain ⟨hagree, htidy, hinsert⟩ := resolve_reads_recognised_only .standard
  have hnote : SameGrid (resolve .standard (.ofPairs [("My::Note", " a")]))
      (resolve .standard .empty) := hinsert .empty "My::Note" " a" (by decide +kernel)
  obtain ⟨r, hr⟩ := exists_eq_ok (hnote.isOk_eq.trans (by decide +kernel))
  obtain ⟨hnormalized, hentries⟩ := htidy _ r hr
  refine ⟨hagree _ _ (agreeOn_recognised_iff.2 (by decide +kernel)), hnote, r, hr, hnormalized, ?_⟩
  rw [hentries]
  decide +kernel

end GridSetup
