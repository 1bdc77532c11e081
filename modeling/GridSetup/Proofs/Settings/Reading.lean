import GridSetup.Defaults
import GridSetup.Proofs.Resolution.Stages
import GridSetup.Proofs.Settings.Assignment

/-!
# Defaults read from a tree

The entries of a table are converted as they are met, so the order in which they
are met decides which of two faults ends the reading. It does not decide anything
else. Two entries that both convert fill two fields, and that can be done in either
order; so a reading that succeeded succeeds in every order, with the same record
(`stable_ofSetting`).

The other half is what the record has to do with the tree: the value of a field is
what the setting at its place converts to (`convert_of_find?`).
-/

namespace GridSetup

open Setting

/-- A conversion whose result, if it has one, does not depend on the order of entries. -/
def Stable {α : Type} (convert : Setting → Except SettingsError α) : Prop :=
  ∀ s t a, Shuffled s t → convert s = .ok a → convert t = .ok a

/-- A conversion that takes no table. -/
theorem Stable.of_plain {α : Type} {convert : Setting → Except SettingsError α}
    (h : ∀ es a, convert (.table es) ≠ .ok a) : Stable convert := by
  intro s t a hst hs
  cases s with
  | table es => exact absurd hs (h es a)
  | null | flag | integer | real | text | list =>
      rw [hst.eq_of_isTable rfl]
      exact hs

theorem stable_toTriple {α : Type} (convert : Setting → Except SettingsError α) :
    Stable (toTriple convert) :=
  .of_plain fun es a h => by cases h

/-- The one key of a table is the same in any order. -/
theorem stable_toChoice {α : Type} [Choice α] : Stable (toChoice : Setting → Except _ α) := by
  intro s t a hst hs
  match s with
  | .table [(word, v)] =>
      have ht : t.isTable = true := hst.isTable_eq
      cases t with
      | table fs =>
          have hperm : [word].Perm (fs.map Prod.fst) := hst.keys_perm
          have hkeys : fs.map Prod.fst = [word] := (List.singleton_perm.1 hperm).symm
          obtain ⟨⟨word', w⟩, rfl, hword⟩ := List.map_eq_singleton_iff.1 hkeys
          cases hword
          exact hs
      | null | flag | integer | real | text | list => cases ht
  | .table [] | .table (_ :: _ :: _) => cases hs
  | .null | .flag _ | .integer _ | .real _ | .text _ | .list _ =>
      rw [hst.eq_of_isTable rfl]
      exact hs

namespace Fields

variable {F : Type} [Fields F] {d d' : Draft F} {r : Record F} {f g : F}

theorem find?_eq_some {k : String} : find? k = some f ↔ key f = k := by
  constructor
  · intro h
    exact beq_iff_eq.1 (List.find?_some (p := fun f => key f == k) h)
  · intro h
    cases hfind : (find? k : Option F) with
    | none =>
        have hnone := List.find?_eq_none.1 hfind f (mem_all f)
        exact absurd (beq_iff_eq.2 h) hnone
    | some g =>
        have hg : key g = k := beq_iff_eq.1 (List.find?_some (p := fun f => key f == k) hfind)
        rw [eq_of_key g f (hg.trans h.symm)]

/-- A record is complete if every field was met. -/
theorem complete_eq_ok : complete d = .ok r ↔ ∀ f, d f = some (r f) := by
  rw [complete]
  constructor
  · intro h f
    split at h
    · cases h
      exact (Option.some_get _).symm
    · cases h
  · intro h
    have hall : ∀ f ∈ all, (d f).isSome := fun f _ => Option.isSome_iff_exists.2 ⟨_, h f⟩
    rw [dif_pos hall, Except.ok.injEq]
    funext f
    simp only [h f, Option.get_some]

variable [DecidableEq F]

theorem fill_same (d : Draft F) (f : F) (x : Value f) : d.fill f x f = some x :=
  dif_pos rfl

theorem fill_of_ne (h : f ≠ g) (d : Draft F) (x : Value f) : d.fill f x g = d g :=
  dif_neg h

/-- Two fields are filled in either order. -/
theorem fill_comm (h : f ≠ g) (d : Draft F) (x : Value f) (y : Value g) :
    (d.fill f x).fill g y = (d.fill g y).fill f x := by
  funext e
  by_cases hf : f = e
  · subst hf
    rw [fill_same, fill_of_ne h.symm, fill_same]
  · rw [fill_of_ne hf]
    by_cases hg : g = e
    · subst hg
      rw [fill_same, fill_same]
    · rw [fill_of_ne hg, fill_of_ne hg, fill_of_ne hf]

/-- What a visit does that succeeds: it passes over an entry, or fills a field that was not met. -/
theorem visit_eq_ok {e : String × Setting} :
    visit d e = .ok d' ↔ ((find? e.1 : Option F) = none ∧ d' = d) ∨
      ∃ f x, find? e.1 = some f ∧ d f = none ∧ convert f e.2 = .ok x ∧ d' = d.fill f x := by
  rw [visit]
  cases hfind : (find? e.1 : Option F) with
  | none => simp [eq_comm]
  | some f =>
      cases hf : d f with
      | some x => simp [hf]
      | none =>
          cases hx : convert f e.2 with
          | error err => simp [hx, hf, Except.map]
          | ok x => simp [hx, hf, Except.map, eq_comm]

/-- Two entries that both convert are visited in either order. -/
theorem visit_comm {e e' : String × Setting} (hne : e.1 ≠ e'.1) {d'' : Draft F}
    (h : visit d e = .ok d') (h' : visit d' e' = .ok d'') :
    ∃ m, visit d e' = .ok m ∧ visit m e = .ok d'' := by
  rcases visit_eq_ok.1 h with ⟨hfind, rfl⟩ | ⟨f, x, hfind, hf, hx, rfl⟩
  · exact ⟨d'', h', visit_eq_ok.2 (.inl ⟨hfind, rfl⟩)⟩
  · rcases visit_eq_ok.1 h' with ⟨hfind', rfl⟩ | ⟨g, y, hfind', hg, hy, rfl⟩
    · exact ⟨d, visit_eq_ok.2 (.inl ⟨hfind', rfl⟩), h⟩
    · have hfg : f ≠ g := by
        rintro rfl
        exact hne ((find?_eq_some.1 hfind).symm.trans (find?_eq_some.1 hfind'))
      rw [fill_of_ne hfg] at hg
      refine ⟨d.fill g y, visit_eq_ok.2 (.inr ⟨g, y, hfind', hg, hy, rfl⟩), ?_⟩
      refine visit_eq_ok.2 (.inr ⟨f, x, hfind, ?_, hx, fill_comm hfg d x y⟩)
      rw [fill_of_ne hfg.symm, hf]

theorem visit_stable (h : ∀ f : F, Stable (convert f)) {k : String} {v w : Setting}
    (hvw : Shuffled v w) (hd : visit d (k, v) = .ok d') : visit d (k, w) = .ok d' := by
  rcases visit_eq_ok.1 hd with hskip | ⟨f, x, hfind, hf, hx, hd'⟩
  · exact visit_eq_ok.2 (.inl hskip)
  · exact visit_eq_ok.2 (.inr ⟨f, x, hfind, hf, h f v w x hvw hx, hd'⟩)

/-- A group that is read is read as the same record in any order. -/
theorem stable_read (h : ∀ f : F, Stable (convert f)) :
    Stable (read : Setting → Except _ (Record F)) := by
  intro s t r hst
  induction hst with
  | refl s => exact id
  | trans _ _ ih ih' => exact fun hr => ih' (ih hr)
  | @swap pre e e' post hne =>
      intro hr
      simp only [read, List.foldlM_append, List.foldlM_cons, except_bind_eq_ok] at hr ⊢
      obtain ⟨last, ⟨d, hpre, d₁, he, d₂, he', hpost⟩, hcomplete⟩ := hr
      obtain ⟨m, hm, hm'⟩ := visit_comm hne he he'
      exact ⟨last, ⟨d, hpre, m, hm, d₂, hm', hpost⟩, hcomplete⟩
  | @entry pre k v w post hvw _ =>
      intro hr
      simp only [read, List.foldlM_append, List.foldlM_cons, except_bind_eq_ok] at hr ⊢
      obtain ⟨last, ⟨d, hpre, d₁, hv, hpost⟩, hcomplete⟩ := hr
      exact ⟨last, ⟨d, hpre, d₁, visit_stable h hvw hv, hpost⟩, hcomplete⟩

/-- A field that is filled at the end was filled before, or by its entry. -/
theorem filled_of_foldlM {es : List (String × Setting)} (h : es.foldlM visit d = .ok d')
    {x : Value f} (hx : d' f = some x) :
    d f = some x ∨ (d f = none ∧ ∃ v, es.lookup (key f) = some v ∧ convert f v = .ok x) := by
  induction es generalizing d with
  | nil =>
      cases h
      exact .inl hx
  | cons e rest ih =>
      obtain ⟨k, v⟩ := e
      rw [List.foldlM_cons] at h
      obtain ⟨d₁, he, hrest⟩ := except_bind_eq_ok.1 h
      rw [Table.lookup_entry]
      rcases visit_eq_ok.1 he with ⟨hfind, rfl⟩ | ⟨g, y, hfind, hg, hy, rfl⟩
      · have hk : ¬ key f = k := by
          intro hk
          rw [find?_eq_some.2 hk] at hfind
          cases hfind
        rw [if_neg hk]
        exact ih hrest
      · have hkey : key g = k := find?_eq_some.1 hfind
        by_cases hgf : g = f
        · subst hgf
          rw [if_pos hkey]
          rcases ih hrest with hfilled | ⟨hnone, _⟩
          · rw [fill_same, Option.some.injEq] at hfilled
            subst hfilled
            exact .inr ⟨hg, v, rfl, hy⟩
          · rw [fill_same] at hnone
            cases hnone
        · have hk : ¬ key f = k := fun hk => hgf (eq_of_key g f (hkey.trans hk.symm))
          rw [if_neg hk, ← fill_of_ne hgf d y]
          exact ih hrest

/-- The value of a field is what the entry with its key converts to. -/
theorem convert_of_entry? {s v : Setting} (h : read s = .ok r) (hv : s.entry? (key f) = some v) :
    convert f v = .ok (r f) := by
  cases s with
  | table es =>
      obtain ⟨d, hd, hcomplete⟩ := except_bind_eq_ok.1 h
      rcases filled_of_foldlM hd (complete_eq_ok.1 hcomplete f) with hnone | ⟨-, v', hv', hx⟩
      · cases hnone
      · cases hv.symm.trans hv'
        exact hx
  | null | flag | integer | real | text | list => cases hv

theorem foldlM_visit_map {setting : F → Setting} (h : ∀ f, convert f (setting f) = .ok (r f))
    {fs : List F} (hnodup : fs.Nodup) (hd : ∀ f ∈ fs, d f = none) :
    (fs.map fun f => (key f, setting f)).foldlM visit d =
      .ok fun f => if f ∈ fs then some (r f) else d f := by
  induction fs generalizing d with
  | nil => simp [pure, Except.pure]
  | cons f rest ih =>
      obtain ⟨hf, hrest⟩ := List.nodup_cons.1 hnodup
      have hvisit : visit d (key f, setting f) = .ok (d.fill f (r f)) :=
        visit_eq_ok.2 (.inr ⟨f, r f, find?_eq_some.2 rfl, hd f List.mem_cons_self, h f, rfl⟩)
      have hafter : ∀ g ∈ rest, (d.fill f (r f)) g = none := by
        intro g hg
        have hne : f ≠ g := fun heq => hf (heq ▸ hg)
        rw [fill_of_ne hne]
        exact hd g (List.mem_cons_of_mem f hg)
      rw [List.map_cons, List.foldlM_cons, hvisit, except_ok_bind, ih hrest hafter, Except.ok.injEq]
      funext g
      by_cases hg : f = g
      · subst hg
        rw [if_neg hf, fill_same, if_pos List.mem_cons_self]
      · simp only [List.mem_cons, fill_of_ne hg, Ne.symm hg, false_or]

/-- A table with a good entry for each field is read. -/
theorem read_table {setting : F → Setting} (h : ∀ f, convert f (setting f) = .ok (r f)) :
    read (table setting) = .ok r := by
  have hvisits := foldlM_visit_map (d := fun _ => none) h nodup_all fun f _ => rfl
  rw [table, read, hvisits, except_ok_bind, complete_eq_ok]
  intro f
  rw [if_pos (mem_all f)]

end Fields

/-! ## Conversions of what is written -/

theorem toNat64_integer (n : Nat) : toNat64 (.integer n) = .ok n := by
  rw [toNat64, if_pos (Int.natCast_nonneg n), Int.toNat_natCast]

theorem toInt32_integer (n : Int32) : toInt32 (.integer n.toInt) = .ok n := by
  have hlow := n.le_toInt
  have hhigh := n.toInt_lt
  show (if -0x80000000 ≤ n.toInt ∧ n.toInt < 0x80000000 then pure (Int32.ofInt n.toInt)
    else throw .wrongType : Except SettingsError Int32) = _
  rw [if_pos ⟨by omega, by omega⟩, Int32.ofInt_toInt]
  rfl

theorem toTriple_triple {α : Type} {f : α → Setting} {convert : Setting → Except SettingsError α}
    (h : ∀ a, convert (f a) = .ok a) (v : PerAxis α) :
    toTriple convert (Defaults.triple f v) = .ok v := by
  show (do return (⟨← convert (f v.x), ← convert (f v.y), ← convert (f v.z)⟩ : PerAxis α)) = _
  simp only [h, except_ok_bind]
  rfl

theorem toChoice_text {α : Type} [Choice α] {a : α} (h : Choice.find? (Choice.word a) = some a) :
    toChoice (.text (Choice.word a)) = .ok a := by
  simp only [toChoice, Option.bind_some, h]

namespace Defaults

/-- The values of the fields of defaults. -/
def toRecord (d : Defaults) : Fields.Record RootField
  | .dimension => d.dimension
  | .decomposition => fun
    | .globalSize => d.globalSize
  | .grid => fun
    | .gridType => d.gridType
    | .domain => d.domain
    | .avoidOrigin => d.avoidOrigin
    | .spacing => d.spacing
    | .rangeMin => d.rangeMin
    | .rangeMax => d.rangeMax
  | .time => fun
    | .method => d.method
    | .stepFactor => d.stepFactor
    | .courantFactor => d.courantFactor
    | .crossingTime => d.crossingTime

theorem toRecord_ofRecord (r : Fields.Record RootField) : (ofRecord r).toRecord = r := by
  funext f
  cases f with
  | dimension => rfl
  | decomposition | grid | time =>
      funext f
      cases f <;> rfl

theorem ofSetting_eq_ok {s : Setting} {d : Defaults} (h : ofSetting s = .ok d) :
    Fields.read s = .ok d.toRecord := by
  rw [ofSetting] at h
  cases hr : (Fields.read s : Except _ (Fields.Record RootField)) with
  | error e =>
      rw [hr] at h
      cases h
  | ok r =>
      rw [hr] at h
      cases h
      rw [toRecord_ofRecord]

theorem stable_decomposition (f : DecompositionField) : Stable (Fields.convert f) := by
  cases f
  exact stable_toTriple _

theorem stable_geometry (f : GeometryField) : Stable (Fields.convert f) := by
  cases f with
  | gridType => exact stable_toChoice (α := GridType)
  | domain => exact stable_toChoice (α := Domain)
  | avoidOrigin | spacing | rangeMin | rangeMax => exact stable_toTriple _

theorem stable_time (f : TimeField) : Stable (Fields.convert f) := by
  cases f with
  | method => exact stable_toChoice (α := TimeStepMethod)
  | stepFactor | courantFactor | crossingTime => exact .of_plain fun es a h => by cases h

theorem stable_root (f : RootField) : Stable (Fields.convert f) := by
  cases f with
  | dimension => exact .of_plain fun es a h => by cases h
  | decomposition => exact Fields.stable_read stable_decomposition
  | grid => exact Fields.stable_read stable_geometry
  | time => exact Fields.stable_read stable_time

/-- Defaults that are read from a tree are read from it in any order. -/
theorem stable_ofSetting : Stable ofSetting := by
  intro s t d hst hs
  rw [ofSetting, Fields.stable_read stable_root s t _ hst (ofSetting_eq_ok hs)]
  rfl

/-- Any defaults can be read back from the tree that they are. -/
theorem ofSetting_toSetting (d : Defaults) : ofSetting d.toSetting = .ok d := by
  have hread : Fields.read d.toSetting = .ok d.toRecord := by
    refine Fields.read_table fun f => ?_
    cases f with
    | dimension => exact toNat64_integer d.dimension
    | decomposition =>
        refine Fields.read_table fun f => ?_
        cases f
        exact toTriple_triple toInt32_integer d.globalSize
    | grid =>
        refine Fields.read_table fun f => ?_
        cases f with
        | gridType => exact toChoice_text (by cases d.gridType <;> decide)
        | domain => exact toChoice_text (by cases d.domain <;> decide)
        | avoidOrigin => exact toTriple_triple (f := .flag) (fun b => rfl) d.avoidOrigin
        | spacing => exact toTriple_triple (f := .real) (fun x => rfl) d.spacing
        | rangeMin => exact toTriple_triple (f := .real) (fun x => rfl) d.rangeMin
        | rangeMax => exact toTriple_triple (f := .real) (fun x => rfl) d.rangeMax
    | time =>
        refine Fields.read_table fun f => ?_
        cases f with
        | method => exact toChoice_text (by cases d.method <;> decide)
        | stepFactor | courantFactor | crossingTime => rfl
  rw [ofSetting, hread]
  rfl

/-! ## Places -/

/-- A place in the tree of defaults: of a field of the record or of one of its groups. -/
inductive Place where
  | root (f : RootField)
  | decomposition (f : DecompositionField)
  | geometry (f : GeometryField)
  | time (f : TimeField)

namespace Place

/-- The keys on the way to a place. -/
def way : Place → List String
  | root f => [Fields.key f]
  | decomposition f => [Fields.key RootField.decomposition, Fields.key f]
  | geometry f => [Fields.key RootField.grid, Fields.key f]
  | time f => [Fields.key RootField.time, Fields.key f]

/-- What stands at a place of the record. -/
def Value : Place → Type
  | root f => Fields.Value f
  | decomposition f => Fields.Value f
  | geometry f => Fields.Value f
  | time f => Fields.Value f

/-- How the setting at a place is converted. -/
def convert : (p : Place) → Setting → Except SettingsError p.Value
  | root f => Fields.convert f
  | decomposition f => Fields.convert f
  | geometry f => Fields.convert f
  | time f => Fields.convert f

/-- What a record has at a place. -/
def get (d : Defaults) : (p : Place) → p.Value
  | root f => d.toRecord f
  | decomposition f => d.toRecord .decomposition f
  | geometry f => d.toRecord .grid f
  | time f => d.toRecord .time f

/-- What a record has at a place is what the setting there converts to. -/
theorem convert_of_find? {s leaf : Setting} {d : Defaults} (h : ofSetting s = .ok d)
    (p : Place) (hleaf : s.find? p.way = some leaf) : p.convert leaf = .ok (p.get d) := by
  have hread := ofSetting_eq_ok h
  cases p with
  | root f =>
      obtain ⟨u, hu, hleaf⟩ := Option.bind_eq_some_iff.1 hleaf
      cases hleaf
      exact Fields.convert_of_entry? hread hu
  | decomposition f | geometry f | time f =>
      obtain ⟨group, hgroup, hleaf⟩ := Option.bind_eq_some_iff.1 hleaf
      obtain ⟨u, hu, hleaf⟩ := Option.bind_eq_some_iff.1 hleaf
      cases hleaf
      exact Fields.convert_of_entry? (Fields.convert_of_entry? hread hgroup) hu

end Place

end Defaults

end GridSetup
