import GridSetup.Hierarchy
import Mathlib.Data.List.Induction
import Mathlib.Tactic.Common

/-!
# What a hierarchy remembers of its changes

A hierarchy keeps no record of how it came to be, and none is needed: after any
run of changes an entry of a list is the value that was written to its index
last, unless the list was too short for that index at some time since. Then the
entry began anew, with zero. A list that shrinks and grows again has therefore
forgotten what it held beyond the cut, and one that only grows has forgotten
nothing.

`LastWrite` says this of the changes alone. The lengths in it are those that the
accepted changes of dimension ask for, and no hierarchy occurs in it, so the
boundary flags, two to an axis, need no argument of their own. The law is an
induction over the run with one lemma for each kind of change: a change of
dimension resizes every list, any other one writes to one list at most.
-/

namespace GridSetup.Hierarchy

/-! ## The lists and the other fields -/

inductive ListField where
  | ints (f : IntField)
  | reals (f : RealField)
  deriving Repr, DecidableEq

namespace ListField

/-- What the entries of a list are. -/
@[reducible] def Entry : ListField → Type
  | .ints _ => Int32
  | .reals _ => Float

/-- The entry that a list is extended with. -/
def zero : (f : ListField) → f.Entry
  | .ints _ => 0
  | .reals _ => 0

def length (dimension : Nat) : ListField → Nat
  | .ints f => f.length dimension
  | .reals _ => dimension

end ListField

def list (h : Hierarchy) : (f : ListField) → List f.Entry
  | .ints f => h.ints f
  | .reals f => h.reals f

inductive Field where
  | dimension
  | iteration
  | time
  | deltaTime
  | identity
  | list (f : ListField)
  deriving Repr, DecidableEq

@[reducible] def Field.Content : Field → Type
  | .dimension => Nat
  | .iteration => UInt32
  | .time => Float
  | .deltaTime => Float
  | .identity => String
  | .list f => List f.Entry

def content (h : Hierarchy) : (f : Field) → f.Content
  | .dimension => h.dimension
  | .iteration => h.iteration
  | .time => h.time
  | .deltaTime => h.deltaTime
  | .identity => h.identity
  | .list f => h.list f

/-! ## Changes -/

namespace Edit

/-- Whether a change is one of a field. A new dimension is a change of all lists. -/
def concerns : Edit → Field → Bool
  | .setDimension _, .dimension => true
  | .setDimension _, .list _ => true
  | .setDimension _, _ => false
  | .setIteration _, f => f = .iteration
  | .setTime _, f => f = .time
  | .setDeltaTime _, f => f = .deltaTime
  | .setIdentity _, f => f = .identity
  | .setInt g _ _, f => f = .list (.ints g)
  | .setReal g _ _, f => f = .list (.reals g)
  | .fillInts g _, f => f = .list (.ints g)
  | .fillReals g _, f => f = .list (.reals g)

/-- The value that a change writes to an index of a list. -/
def writes? : (f : ListField) → (index : Nat) → Edit → Option f.Entry
  | .ints f, i, .setInt g j value => if f = g ∧ i = j then some value else none
  | .ints f, _, .fillInts g value => if f = g then some value else none
  | .reals f, i, .setReal g j value => if f = g ∧ i = j then some value else none
  | .reals f, _, .fillReals g value => if f = g then some value else none
  | _, _, _ => none

/-- The dimension after a change. -/
def dimensionAfter (dimension : Nat) : Edit → Nat
  | .setDimension n => if n = 0 then dimension else n
  | _ => dimension

end Edit

/-- The hierarchy after a change, or as it was if the change is refused. -/
def step (h : Hierarchy) (e : Edit) : Hierarchy :=
  match h.apply e with
  | .ok h' => h'
  | .error _ => h

/-- The hierarchy after a run of changes. -/
def run (h : Hierarchy) (edits : List Edit) : Hierarchy :=
  edits.foldl step h

def dimensionAfter (dimension : Nat) (edits : List Edit) : Nat :=
  edits.foldl Edit.dimensionAfter dimension

/-- A value was written to an index of a list, nothing was written there since, and the list has
been longer than the index from that write on. -/
def LastWrite (dimension : Nat) (edits : List Edit) (f : ListField) (i : Nat) (v : f.Entry) :
    Prop :=
  ∃ before e after, edits = before ++ e :: after ∧ e.writes? f i = some v ∧
    (∀ a ∈ after, a.writes? f i = none) ∧
    ∀ seen, seen <+: after → i < f.length (dimensionAfter dimension (before ++ e :: seen))

/-- What changes to a hierarchy with zeros in all its lists leave to be seen. -/
structure Records (dimension : Nat) (edits : List Edit) (h : Hierarchy) : Prop where
  wellFormed : h.WellFormed
  dimension_eq : h.dimension = dimensionAfter dimension edits
  entry : ∀ (f : ListField) (i : Nat) (v : f.Entry), (h.list f)[i]? = some v →
    LastWrite dimension edits f i v ∨ v = f.zero ∧ ∀ w, ¬ LastWrite dimension edits f i w

/-- A hierarchy that no change was made to, and its dimension. -/
inductive Fresh : Nat → Hierarchy → Prop where
  | new {dimension : Nat} {h : Hierarchy} : Hierarchy.new dimension = .ok h → Fresh dimension h
  | default : Fresh 3 Hierarchy.default

/-! ## One change -/

theorem apply_eq_error_iff {h : Hierarchy} {e : Edit} {x : NoAxes} :
    h.apply e = .error x ↔ e = .setDimension 0 := by
  cases e with
  | setDimension n =>
      rw [apply, setDimension]
      split
      · next hn =>
          rw [hn]
          cases x
          exact iff_of_true rfl rfl
      · next hn => simp [hn]
  | _ => simp [apply]

theorem step_of_ok {h h' : Hierarchy} {e : Edit} (he : h.apply e = .ok h') : h.step e = h' := by
  rw [step, he]

theorem ints_withInts (h : Hierarchy) (values : List Int32) (f g : IntField) :
    (h.withInts values g).ints f = if f = g then values else h.ints f := by
  cases g <;> cases f <;> rfl

theorem reals_withReals (h : Hierarchy) (values : List Float) (f g : RealField) :
    (h.withReals values g).reals f = if f = g then values else h.reals f := by
  cases g <;> cases f <;> rfl

theorem content_withInts (h : Hierarchy) (values : List Int32) {f : Field} {g : IntField}
    (hf : f ≠ .list (.ints g)) : (h.withInts values g).content f = h.content f := by
  cases f with
  | list f =>
      cases f with
      | ints f =>
          have hfg : f ≠ g := fun he => hf (he ▸ rfl)
          show (h.withInts values g).ints f = h.ints f
          rw [ints_withInts, if_neg hfg]
      | reals f => cases g <;> cases f <;> rfl
  | _ => cases g <;> rfl

theorem content_withReals (h : Hierarchy) (values : List Float) {f : Field} {g : RealField}
    (hf : f ≠ .list (.reals g)) : (h.withReals values g).content f = h.content f := by
  cases f with
  | list f =>
      cases f with
      | ints f => cases g <;> cases f <;> rfl
      | reals f =>
          have hfg : f ≠ g := fun he => hf (he ▸ rfl)
          show (h.withReals values g).reals f = h.reals f
          rw [reals_withReals, if_neg hfg]
  | _ => cases g <;> rfl

theorem content_step (h : Hierarchy) {e : Edit} {f : Field} (hf : e.concerns f = false) :
    (h.step e).content f = h.content f := by
  cases e with
  | setDimension n =>
      by_cases hn : n = 0
      · subst hn
        rfl
      · rw [step, apply, setDimension, if_neg hn]
        cases f <;> first | rfl | cases hf
  | setIteration value => cases f <;> first | rfl | cases hf
  | setTime value => cases f <;> first | rfl | cases hf
  | setDeltaTime value => cases f <;> first | rfl | cases hf
  | setIdentity value => cases f <;> first | rfl | cases hf
  | setInt g j value => exact content_withInts h _ (of_decide_eq_false hf)
  | setReal g j value => exact content_withReals h _ (of_decide_eq_false hf)
  | fillInts g value => exact content_withInts h _ (of_decide_eq_false hf)
  | fillReals g value => exact content_withReals h _ (of_decide_eq_false hf)

theorem dimension_step (h : Hierarchy) (e : Edit) :
    (h.step e).dimension = e.dimensionAfter h.dimension := by
  by_cases hd : e.concerns .dimension = false
  · have hsame : (h.step e).dimension = h.dimension := content_step h hd
    rw [hsame]
    cases e <;> first | rfl | cases hd
  · cases e with
    | setDimension n =>
        rw [step, apply, setDimension, Edit.dimensionAfter]
        by_cases hn : n = 0
        · rw [if_pos hn, if_pos hn]
        · rw [if_neg hn, if_neg hn]
    | _ => exact absurd rfl hd

/-! ## One change of a list -/

theorem length_resize {α : Type} (fill : α) (length : Nat) (values : List α) :
    (resize fill length values).length = length := by
  rw [resize, List.length_append, List.length_take, List.length_replicate]
  omega

theorem getElem?_resize {α : Type} (fill : α) (length : Nat) (values : List α) (i : Nat) :
    (resize fill length values)[i]? = if i < length then some (values[i]?.getD fill) else none := by
  rw [resize, List.getElem?_append, List.length_take, List.getElem?_take, List.getElem?_replicate]
  by_cases hl : i < length
  · by_cases hv : i < values.length
    · have hkept : i < min length values.length := by omega
      rw [if_pos hkept, if_pos hl, if_pos hl, List.getElem?_eq_getElem hv]
      rfl
    · have hnew : ¬ i < min length values.length := by omega
      have hfill : i - min length values.length < length - values.length := by omega
      rw [if_neg hnew, if_pos hfill, if_pos hl, List.getElem?_eq_none (by omega)]
      rfl
  · have hout : ¬ i < min length values.length := by omega
    have hend : ¬ i - min length values.length < length - values.length := by omega
    rw [if_neg hout, if_neg hend, if_neg hl]

theorem list_setDimension (h : Hierarchy) {n : Nat} (hn : n ≠ 0) (f : ListField) :
    (h.step (.setDimension n)).list f = resize f.zero (f.length n) (h.list f) := by
  rw [step, apply, setDimension, if_neg hn]
  cases f with
  | ints f => cases f <;> rfl
  | reals f => cases f <;> rfl

theorem mapIdx_eq_self {α : Type} {values : List α} {w : Nat → Option α} (h : ∀ i, w i = none) :
    (values.mapIdx fun i a => (w i).getD a) = values := by
  apply List.ext_getElem?
  intro i
  simp [h]

theorem mapIdx_eq_set {α : Type} {values : List α} {w : Nat → Option α} {j : Nat} {v : α}
    (h : ∀ i, w i = if i = j then some v else none) :
    (values.mapIdx fun i a => (w i).getD a) = values.set j v := by
  apply List.ext_getElem?
  intro i
  rw [List.getElem?_set', List.getElem?_mapIdx]
  by_cases hij : i = j
  · subst hij
    simp only [h, if_true, Option.getD_some]
    rfl
  · have hji : ¬ j = i := fun he => hij he.symm
    simp [h, hij, hji]

theorem mapIdx_eq_fill {α : Type} {values : List α} {w : Nat → Option α} {v : α}
    (h : ∀ i, w i = some v) :
    (values.mapIdx fun i a => (w i).getD a) = values.map fun _ => v := by
  apply List.ext_getElem?
  intro i
  rw [List.getElem?_mapIdx, List.getElem?_map]
  simp only [h, Option.getD_some]

theorem writes?_of_not_concerns {e : Edit} {f : ListField} (hf : e.concerns (.list f) = false)
    (i : Nat) : e.writes? f i = none := by
  cases e <;> cases f <;> simp_all [Edit.writes?, Edit.concerns, eq_comm]

/-- A change that is not one of dimension leaves every list as long as it was, and every entry as it
was that it does not write to. -/
theorem list_step (h : Hierarchy) {e : Edit} (he : ∀ n, e ≠ .setDimension n) (f : ListField) :
    (h.step e).list f = (h.list f).mapIdx fun i a => (e.writes? f i).getD a := by
  by_cases hf : e.concerns (.list f) = false
  · have hsame : (h.step e).list f = h.list f := content_step h hf
    rw [hsame, mapIdx_eq_self (writes?_of_not_concerns hf)]
  · rw [Bool.not_eq_false] at hf
    cases e with
    | setDimension n => exact absurd rfl (he n)
    | setInt g j value =>
        cases of_decide_eq_true hf
        rw [mapIdx_eq_set (v := value) (j := j) fun i => by simp [Edit.writes?]]
        exact (ints_withInts h _ g g).trans (if_pos rfl)
    | setReal g j value =>
        cases of_decide_eq_true hf
        rw [mapIdx_eq_set (v := value) (j := j) fun i => by simp [Edit.writes?]]
        exact (reals_withReals h _ g g).trans (if_pos rfl)
    | fillInts g value =>
        cases of_decide_eq_true hf
        rw [mapIdx_eq_fill (v := value) fun i => by simp [Edit.writes?]]
        exact (ints_withInts h _ g g).trans (if_pos rfl)
    | fillReals g value =>
        cases of_decide_eq_true hf
        rw [mapIdx_eq_fill (v := value) fun i => by simp [Edit.writes?]]
        exact (reals_withReals h _ g g).trans (if_pos rfl)
    | _ => simp [Edit.concerns] at hf

/-! ## Well-formedness -/

theorem wellFormed_iff {h : Hierarchy} :
    h.WellFormed ↔ 1 ≤ h.dimension ∧ ∀ f : ListField, (h.list f).length = f.length h.dimension := by
  constructor
  · intro hw
    refine ⟨hw.dimension_pos, fun f => ?_⟩
    cases f with
    | ints f => exact hw.length_ints f
    | reals f => exact hw.length_reals f
  · rintro ⟨hpos, hlen⟩
    exact ⟨hpos, fun f => hlen (.ints f), fun f => hlen (.reals f)⟩

theorem wellFormed_zeroed {dimension : Nat} (h : 1 ≤ dimension) : (zeroed dimension).WellFormed where
  dimension_pos := h
  length_ints f := by cases f <;> exact List.length_replicate
  length_reals f := by cases f <;> exact List.length_replicate

theorem wellFormed_step {h : Hierarchy} (hw : h.WellFormed) (e : Edit) : (h.step e).WellFormed := by
  obtain ⟨hpos, hlen⟩ := wellFormed_iff.1 hw
  rw [wellFormed_iff, dimension_step]
  by_cases he : ∃ n, e = .setDimension n
  · obtain ⟨n, rfl⟩ := he
    by_cases hn : n = 0
    · subst hn
      exact ⟨hpos, hlen⟩
    · rw [Edit.dimensionAfter, if_neg hn]
      refine ⟨Nat.one_le_iff_ne_zero.2 hn, fun f => ?_⟩
      rw [list_setDimension h hn, length_resize]
  · have hother : ∀ n, e ≠ .setDimension n := fun n hn => he ⟨n, hn⟩
    have hsame : e.dimensionAfter h.dimension = h.dimension := by
      cases e with
      | setDimension n => exact absurd rfl (hother n)
      | _ => rfl
    rw [hsame]
    refine ⟨hpos, fun f => ?_⟩
    rw [list_step h hother, List.length_mapIdx, hlen]

/-! ## The last write -/

theorem dimensionAfter_concat (dimension : Nat) (edits : List Edit) (e : Edit) :
    dimensionAfter dimension (edits ++ [e]) = e.dimensionAfter (dimensionAfter dimension edits) :=
  List.foldl_append

theorem run_concat (h : Hierarchy) (edits : List Edit) (e : Edit) :
    h.run (edits ++ [e]) = (h.run edits).step e :=
  List.foldl_append

theorem not_lastWrite_nil (dimension : Nat) (f : ListField) (i : Nat) (v : f.Entry) :
    ¬ LastWrite dimension [] f i v := by
  rintro ⟨before, e, after, hcut, -⟩
  simp at hcut

/-- Where a run that ends with a change is cut, the cut is before that change or earlier. -/
theorem concat_eq_append_cons {α : Type} {xs before after : List α} {x y : α}
    (h : xs ++ [x] = before ++ y :: after) :
    (before = xs ∧ y = x ∧ after = []) ∨ ∃ rest, after = rest ++ [x] ∧ xs = before ++ y :: rest := by
  rcases List.eq_nil_or_concat after with rfl | ⟨rest, z, rfl⟩
  · obtain ⟨hxs, hx⟩ := List.append_inj' h rfl
    exact Or.inl ⟨hxs.symm, (List.singleton_inj.1 hx).symm, rfl⟩
  · have hcut : xs ++ [x] = (before ++ y :: rest) ++ [z] := by simpa using h
    obtain ⟨hxs, hx⟩ := List.append_inj' hcut rfl
    cases List.singleton_inj.1 hx
    exact Or.inr ⟨rest, by simp, hxs⟩

theorem lastWrite_concat_iff {dimension : Nat} {edits : List Edit} {e : Edit} {f : ListField}
    {i : Nat} {v : f.Entry} :
    LastWrite dimension (edits ++ [e]) f i v ↔
      i < f.length (dimensionAfter dimension (edits ++ [e])) ∧
        (e.writes? f i = some v ∨ e.writes? f i = none ∧ LastWrite dimension edits f i v) := by
  constructor
  · rintro ⟨before, w, after, hcut, hw, hnone, hlong⟩
    have hnow := hlong after List.prefix_rfl
    rw [← hcut] at hnow
    refine ⟨hnow, ?_⟩
    rcases concat_eq_append_cons hcut with ⟨rfl, rfl, rfl⟩ | ⟨rest, rfl, rfl⟩
    · exact Or.inl hw
    · refine Or.inr ⟨hnone e (by simp), before, w, rest, rfl, hw, ?_, ?_⟩
      · exact fun a ha => hnone a (List.mem_append_left _ ha)
      · exact fun seen hseen => hlong seen (hseen.trans (List.prefix_append rest [e]))
  · rintro ⟨hnow, hw | ⟨hnone, before, w, after, rfl, hw, hquiet, hlong⟩⟩
    · refine ⟨edits, e, [], rfl, hw, by simp, fun seen hseen => ?_⟩
      rwa [List.prefix_nil.1 hseen]
    · refine ⟨before, w, after ++ [e], by simp, hw, ?_, fun seen hseen => ?_⟩
      · intro a ha
        rcases List.mem_append.1 ha with ha | ha
        · exact hquiet a ha
        · rwa [List.mem_singleton.1 ha]
      · rcases List.prefix_concat_iff.1 hseen with rfl | hseen
        · simpa using hnow
        · exact hlong seen hseen

theorem LastWrite.lt_length {dimension : Nat} {edits : List Edit} {f : ListField} {i : Nat}
    {v : f.Entry} (h : LastWrite dimension edits f i v) :
    i < f.length (dimensionAfter dimension edits) := by
  obtain ⟨before, e, after, rfl, -, -, hlong⟩ := h
  exact hlong after List.prefix_rfl

/-! ## Runs -/

theorem Records.step {dimension : Nat} {edits : List Edit} {h : Hierarchy}
    (hr : Records dimension edits h) (e : Edit) :
    Records dimension (edits ++ [e]) (h.step e) := by
  have hw := wellFormed_step hr.wellFormed e
  have hd : (h.step e).dimension = dimensionAfter dimension (edits ++ [e]) := by
    rw [dimension_step, hr.dimension_eq, dimensionAfter_concat]
  refine ⟨hw, hd, fun f i v hv => ?_⟩
  have hnow : i < f.length (dimensionAfter dimension (edits ++ [e])) := by
    rw [← hd, ← (wellFormed_iff.1 hw).2 f]
    exact (List.getElem?_eq_some_iff.1 hv).1
  simp only [lastWrite_concat_iff, hnow, true_and]
  by_cases he : ∃ n, e = .setDimension n
  · obtain ⟨n, rfl⟩ := he
    have hnone : (Edit.setDimension n).writes? f i = none := by cases f <;> rfl
    simp only [hnone, reduceCtorEq, false_or, true_and]
    by_cases hn : n = 0
    · subst hn
      exact hr.entry f i v hv
    · rw [list_setDimension h hn, getElem?_resize] at hv
      split at hv
      · cases hold : (h.list f)[i]? with
        | some w =>
            rw [hold] at hv
            cases hv
            exact hr.entry f i w hold
        | none =>
            -- the list was too short for the index, so nothing written there before counts
            rw [hold] at hv
            cases hv
            refine Or.inr ⟨rfl, fun w hwrite => ?_⟩
            have hlt := hwrite.lt_length
            rw [← hr.dimension_eq, ← (wellFormed_iff.1 hr.wellFormed).2 f] at hlt
            exact absurd hlt (Nat.not_lt.2 (List.getElem?_eq_none_iff.1 hold))
      · cases hv
  · rw [list_step h fun n hn => he ⟨n, hn⟩, List.getElem?_mapIdx] at hv
    obtain ⟨a, ha, rfl⟩ := Option.map_eq_some_iff.1 hv
    cases hwrite : e.writes? f i with
    | some w => exact Or.inl (Or.inl rfl)
    | none => simpa using hr.entry f i a ha

theorem records_zeroed {dimension : Nat} (hd : 1 ≤ dimension) :
    Records dimension [] (zeroed dimension) where
  wellFormed := wellFormed_zeroed hd
  dimension_eq := rfl
  entry := by
    intro f i v hv
    have hmem := List.mem_of_getElem? hv
    refine Or.inr ⟨?_, not_lastWrite_nil dimension f i⟩
    cases f with
    | ints f => cases f <;> exact List.eq_of_mem_replicate hmem
    | reals f => cases f <;> exact List.eq_of_mem_replicate hmem

theorem Fresh.records {dimension : Nat} {h : Hierarchy} (hf : Fresh dimension h) :
    Records dimension [] h := by
  cases hf with
  | new hnew =>
      rw [Hierarchy.new] at hnew
      split at hnew
      · cases hnew
      · next hne =>
          cases hnew
          exact records_zeroed (Nat.one_le_iff_ne_zero.2 hne)
  | default => exact records_zeroed (by decide)

theorem Fresh.records_run {dimension : Nat} {h : Hierarchy} (hf : Fresh dimension h)
    (edits : List Edit) : Records dimension edits (h.run edits) := by
  induction edits using List.reverseRecOn with
  | nil => exact hf.records
  | append_singleton edits e ih =>
      rw [run_concat]
      exact ih.step e

/-- Whatever changes are made to a new hierarchy, its lists fit its dimension, which is at least
one, and an entry is what was written last to its place since the list has had that place, or zero.
Only a dimension of zero is refused, which changes nothing, and a change of one field changes no
other, save that a new dimension resizes every list. -/
theorem changes_leave_last_writes :
    (∀ dimension, 1 ≤ dimension → ∃ h, Hierarchy.new dimension = .ok h) ∧
    (∀ dimension start, Fresh dimension start → ∀ edits,
      Records dimension edits (start.run edits)) ∧
    (∀ h e, (∃ x, apply h e = .error x) ↔ e = .setDimension 0) ∧
    (∀ h, step h (.setDimension 0) = h) ∧
    ∀ h e h' f, apply h e = .ok h' → e.concerns f = false → h'.content f = h.content f := by
  refine ⟨fun n hn => ?_, fun n start hf edits => hf.records_run edits, fun h e => ?_,
    fun h => rfl, fun h e h' f he hf => ?_⟩
  · exact ⟨zeroed n, if_neg (Nat.one_le_iff_ne_zero.1 hn)⟩
  · simp only [apply_eq_error_iff]
    exact ⟨fun ⟨_, he⟩ => he, fun he => ⟨.noAxes, he⟩⟩
  · rw [← step_of_ok he]
    exact content_step h hf

/-- A plane is made of a box and a box of the plane again. The size on the second axis is still there
and the flag of a face of the third is not, though it was not written over. -/
theorem changes_leave_last_writes_regrown :
    ∃ (edits : List Edit) (start h : Hierarchy),
      edits = [.setInt .globalSize 1 5, .setInt .boundaryFlags 4 7, .setDimension 2,
        .setDimension 0, .setDimension 3] ∧
      Hierarchy.new 3 = .ok start ∧ start.apply (.setDimension 2) = .ok h ∧
      h.content .iteration = start.content .iteration ∧ Records 3 edits (start.run edits) ∧
      LastWrite 3 edits (.ints .globalSize) 1 5 ∧
      (start.run edits).boundaryFlags = [0, 0, 0, 0, 0, 0] := by
  obtain ⟨hnew, hrun, -, -, hframe⟩ := changes_leave_last_writes
  obtain ⟨start, hstart⟩ := hnew 3 (by decide)
  have hrecords := hrun 3 start (.new hstart) [.setInt .globalSize 1 5, .setInt .boundaryFlags 4 7,
    .setDimension 2, .setDimension 0, .setDimension 3]
  cases hstart
  have hsize := hrecords.entry (.ints .globalSize) 1 5 (by decide)
  refine ⟨_, _, _, rfl, rfl, rfl, hframe _ (.setDimension 2) _ .iteration rfl rfl, hrecords, ?_,
    by decide⟩
  exact hsize.resolve_right fun h => absurd h.1 (by decide)

end GridSetup.Hierarchy
