import GridSetup.Proofs.Resolution.Beyond

/-!
# Which keys decide the extent

Eight keys and three defaults give the sizes of a grid. Each key may be missing,
may have a value that is no integer, and may have one that is of no use. What
comes of all the combinations is a short list of rules, `Extent.Decides`, that
speaks of values only and not of the order of the steps. Both groups of keys have
the same rule for an axis: the uniform size if it is positive, and else the size
of the axis (`Parameters.sizeOn?`). The groups differ in what is made of these.
Local sizes count only if all three are there and positive; a global size has a
default.

The order of the steps shows in the faults. A group that is read at all is read
to its end, and its first fault in the order of the keys is the error
(`Parameters.FirstUnreadable`), before any size is looked at.

The rules are exclusive and one of them always applies, so they say what the
extent is (`Extent.decides_iff`). Everything else here is read off the rules.
-/

namespace GridSetup

open Parameters

/-! ## Sizes and faults under keys -/

namespace Parameters

/-- The size that a key gives, if it has a value that reads as one. -/
def size? (p : Parameters) (key : String) : Option Int32 :=
  (p.value? key).bind fun value => (Text.firstWord value.toList).bind (ValueType.readToken .int32)

/-- The size that a group of keys gives an axis: the uniform one if it is positive, and else that of
the axis. -/
def sizeOn? (p : Parameters) (ks : Key.AxisKeys) (axis : Nat) : Option Int32 :=
  ((p.size? ks.uniform).filter fun n => 0 < n).or (p.size? (ks.axes.onAxis axis))

/-- A key has a value that is no size. -/
def Unreadable (p : Parameters) (key value : String) : Prop :=
  p.value? key = some value ∧ p.size? key = none

/-- The value is that of the first of some keys that has a fault. -/
inductive FirstUnreadable (p : Parameters) : List String → String → Prop where
  | here {key value : String} {rest : List String} : p.Unreadable key value →
      FirstUnreadable p (key :: rest) value
  | later {key value : String} {rest : List String} : (∀ v, ¬ p.Unreadable key v) →
      FirstUnreadable p rest value → FirstUnreadable p (key :: rest) value

/-- No key has a fault. -/
def AllReadable (p : Parameters) (keys : List String) : Prop :=
  ∀ key ∈ keys, ∀ value, ¬ p.Unreadable key value

variable {p : Parameters} {key value : String} {keys : List String}

theorem get?_of_unreadable (h : p.Unreadable key value) :
    p.get? .int32 key = .error (.unreadableValue value .int32) := by
  obtain ⟨hvalue, hsize⟩ := h
  simp only [size?, hvalue, Option.bind_some] at hsize
  simp only [get?, hvalue, readValue, hsize]
  rfl

theorem get?_of_readable (h : ∀ value, ¬ p.Unreadable key value) :
    p.get? .int32 key = .ok (p.size? key) := by
  cases hvalue : p.value? key with
  | none => simp only [get?, size?, hvalue, Option.bind_none]
  | some value =>
      cases hsize : p.size? key with
      | none => exact absurd ⟨hvalue, hsize⟩ (h value)
      | some n =>
          simp only [size?, hvalue, Option.bind_some] at hsize
          simp only [get?, hvalue, readValue, hsize]
          rfl

theorem getD_of_readable (h : ∀ value, ¬ p.Unreadable key value) (default : Int32) :
    p.getD .int32 key default = .ok ((p.size? key).getD default) := by
  rw [getD, get?_of_readable h]
  rfl

theorem allReadable_or_firstUnreadable (p : Parameters) (keys : List String) :
    p.AllReadable keys ∨ ∃ value, p.FirstUnreadable keys value := by
  induction keys with
  | nil =>
      refine .inl fun key hkey => ?_
      cases hkey
  | cons key rest ih =>
      by_cases hbad : ∃ value, p.Unreadable key value
      · obtain ⟨value, hvalue⟩ := hbad
        exact .inr ⟨value, .here hvalue⟩
      · rw [not_exists] at hbad
        rcases ih with hrest | ⟨value, hvalue⟩
        · exact .inl (List.forall_mem_cons.2 ⟨hbad, hrest⟩)
        · exact .inr ⟨value, .later hbad hvalue⟩

/-- A sequence that starts with a look-up fails with the first fault if what follows does. -/
theorem bind_of_firstUnreadable {α : Type} {f : Option Int32 → Except Error α}
    (h : p.FirstUnreadable (key :: keys) value)
    (hf : p.FirstUnreadable keys value → ∀ n, f n = .error (.unreadableValue value .int32)) :
    (p.get? .int32 key >>= f) = .error (.unreadableValue value .int32) := by
  cases h with
  | here hbad =>
      rw [get?_of_unreadable hbad]
      rfl
  | later hgood hrest =>
      rw [get?_of_readable hgood]
      exact hf hrest _

theorem getD_bind {α : Type} {t : ValueType} (default : t.Carrier)
    (f : t.Carrier → Except Error α) :
    (p.getD t key default >>= f) = p.get? t key >>= fun n => f (n.getD default) := by
  rw [getD]
  cases p.get? t key with
  | error e => rfl
  | ok n => rfl

theorem bind_getD_of_firstUnreadable {α : Type} {default : Int32} {f : Int32 → Except Error α}
    (h : p.FirstUnreadable (key :: keys) value)
    (hf : p.FirstUnreadable keys value → ∀ n, f n = .error (.unreadableValue value .int32)) :
    (p.getD .int32 key default >>= f) = .error (.unreadableValue value .int32) := by
  rw [getD_bind]
  exact bind_of_firstUnreadable h fun h n => hf h _

end Parameters

/-! ## The rules -/

namespace Extent

/-- The sizes that the local keys give, all of them there and positive. -/
def LocalSizes (p : Parameters) (sizes : PerAxis Int32) : Prop :=
  ∀ axis < 3, p.sizeOn? Key.localSize axis = some (sizes.onAxis axis) ∧ 0 < sizes.onAxis axis

/-- The sizes that the global keys give, each with its default. -/
def GlobalSizes (d : Defaults) (p : Parameters) (sizes : PerAxis Int32) : Prop :=
  ∀ axis < 3, sizes.onAxis axis =
    (p.sizeOn? Key.globalSize axis).getD (d.globalSize.onAxis axis)

/-- Sizes for the three axes, and the group of keys that gives them. -/
inductive Chosen (d : Defaults) (p : Parameters) : SizeSource → PerAxis Int32 → Prop where
  | localKeys {sizes : PerAxis Int32} : p.AllReadable Key.localSize.toList → LocalSizes p sizes →
      Chosen d p .localKeys sizes
  | globalKeys {sizes : PerAxis Int32} : p.AllReadable Key.localSize.toList →
      (∀ sizes, ¬ LocalSizes p sizes) → p.AllReadable Key.globalSize.toList →
      GlobalSizes d p sizes → Chosen d p .globalKeys sizes

/-- The extent that parameters and defaults decide for a dimension, or the error. -/
inductive Decides (d : Defaults) (p : Parameters) (dimension : Nat) :
    Except Error Extent → Prop where
  | localFault {value : String} : p.FirstUnreadable Key.localSize.toList value →
      Decides d p dimension (.error (.unreadableValue value .int32))
  | globalFault {value : String} : p.AllReadable Key.localSize.toList →
      (∀ sizes, ¬ LocalSizes p sizes) → p.FirstUnreadable Key.globalSize.toList value →
      Decides d p dimension (.error (.unreadableValue value .int32))
  | empty {source : SizeSource} {sizes : PerAxis Int32} {axis : Nat} : Chosen d p source sizes →
      axis < dimension → sizes.onAxis axis < 1 → (∀ lower < axis, 1 ≤ sizes.onAxis lower) →
      Decides d p dimension (.error (.nonPositiveSize axis (sizes.onAxis axis)))
  | sized {source : SizeSource} {sizes : PerAxis Int32} : Chosen d p source sizes →
      (∀ axis < dimension, 1 ≤ sizes.onAxis axis) →
      Decides d p dimension (.ok ⟨source, sizes.toList.take dimension⟩)

/-! ## The two groups -/

section

variable {d : Defaults} {p : Parameters} {value : String}

theorem readLocal_of_firstUnreadable (h : p.FirstUnreadable Key.localSize.toList value) :
    readLocal p = .error (.unreadableValue value .int32) := by
  refine bind_of_firstUnreadable h fun h x => ?_
  refine bind_of_firstUnreadable h fun h y => ?_
  refine bind_of_firstUnreadable h fun h z => ?_
  refine bind_of_firstUnreadable h fun h uniform => ?_
  cases h

theorem readGlobal_of_firstUnreadable (h : p.FirstUnreadable Key.globalSize.toList value) :
    readGlobal d p = .error (.unreadableValue value .int32) := by
  refine bind_getD_of_firstUnreadable h fun h x => ?_
  refine bind_getD_of_firstUnreadable h fun h y => ?_
  refine bind_getD_of_firstUnreadable h fun h z => ?_
  refine bind_of_firstUnreadable h fun h uniform => ?_
  cases h

theorem forall_axis {P : Nat → Prop} : (∀ axis < 3, P axis) ↔ P 0 ∧ P 1 ∧ P 2 := by
  constructor
  · intro h
    exact ⟨h 0 (by decide), h 1 (by decide), h 2 (by decide)⟩
  · rintro ⟨h0, h1, h2⟩ axis haxis
    match axis, haxis with
    | 0, _ => exact h0
    | 1, _ => exact h1
    | 2, _ => exact h2

/-- The three values of a local size become one if the uniform size is positive. -/
theorem readLocal_of_allReadable (h : p.AllReadable Key.localSize.toList) :
    readLocal p = match p.sizeOn? Key.localSize 0, p.sizeOn? Key.localSize 1,
        p.sizeOn? Key.localSize 2 with
      | some x, some y, some z => .ok (if 0 < x ∧ 0 < y ∧ 0 < z then some ⟨x, y, z⟩ else none)
      | _, _, _ => .ok none := by
  have hx := get?_of_readable (h Key.localSize.axes.x (by decide))
  have hy := get?_of_readable (h Key.localSize.axes.y (by decide))
  have hz := get?_of_readable (h Key.localSize.axes.z (by decide))
  have huniform := get?_of_readable (h Key.localSize.uniform (by decide))
  have hsize (axis : Nat) : p.sizeOn? Key.localSize axis = match p.size? Key.localSize.uniform with
      | some n => if 0 < n then some n else p.size? (Key.localSize.axes.onAxis axis)
      | none => p.size? (Key.localSize.axes.onAxis axis) := by
    rw [sizeOn?]
    cases p.size? Key.localSize.uniform with
    | none => rfl
    | some n =>
        simp only [Option.filter_some, decide_eq_true_eq]
        split
        · rfl
        · rfl
  rw [readLocal]
  simp only [hx, hy, hz, huniform, hsize, except_ok_bind]
  cases p.size? Key.localSize.uniform with
  | none => rfl
  | some n =>
      by_cases hn : 0 < n
      · simp only [hn, if_true]
        rfl
      · simp only [hn, if_false]
        rfl

theorem readLocal_eq_some_iff (h : p.AllReadable Key.localSize.toList) {sizes : PerAxis Int32} :
    readLocal p = .ok (some sizes) ↔ LocalSizes p sizes := by
  rw [readLocal_of_allReadable h, LocalSizes, forall_axis]
  obtain ⟨x, y, z⟩ := sizes
  show _ ↔ (_ = some x ∧ 0 < x) ∧ (_ = some y ∧ 0 < y) ∧ _ = some z ∧ 0 < z
  split
  · next x' y' z' hx hy hz =>
      rw [hx, hy, hz]
      constructor
      · intro heq
        split at heq
        · next hpos =>
            cases heq
            exact ⟨⟨rfl, hpos.1⟩, ⟨rfl, hpos.2.1⟩, rfl, hpos.2.2⟩
        · cases heq
      · rintro ⟨⟨hx, hxpos⟩, ⟨hy, hypos⟩, hz, hzpos⟩
        cases hx
        cases hy
        cases hz
        rw [if_pos ⟨hxpos, hypos, hzpos⟩]
  · next hnone =>
      refine iff_of_false (fun heq => ?_) fun hall => ?_
      · cases heq
      · exact hnone x y z hall.1.1 hall.2.1.1 hall.2.2.1

theorem readLocal_eq_none (h : p.AllReadable Key.localSize.toList)
    (hnone : ∀ sizes, ¬ LocalSizes p sizes) : readLocal p = .ok none := by
  cases hread : readLocal p with
  | error e =>
      rw [readLocal_of_allReadable h] at hread
      split at hread
      · cases hread
      · cases hread
  | ok sizes =>
      cases sizes with
      | none => rfl
      | some sizes => exact absurd ((readLocal_eq_some_iff h).1 hread) (hnone sizes)

theorem readGlobal_eq_iff (h : p.AllReadable Key.globalSize.toList) {sizes : PerAxis Int32} :
    readGlobal d p = .ok sizes ↔ GlobalSizes d p sizes := by
  have hx := getD_of_readable (h Key.globalSize.axes.x (by decide)) d.globalSize.x
  have hy := getD_of_readable (h Key.globalSize.axes.y (by decide)) d.globalSize.y
  have hz := getD_of_readable (h Key.globalSize.axes.z (by decide)) d.globalSize.z
  have huniform := get?_of_readable (h Key.globalSize.uniform (by decide))
  have hread : readGlobal d p = .ok
      ⟨(p.sizeOn? Key.globalSize 0).getD d.globalSize.x,
        (p.sizeOn? Key.globalSize 1).getD d.globalSize.y,
        (p.sizeOn? Key.globalSize 2).getD d.globalSize.z⟩ := by
    rw [readGlobal, getAxes]
    simp only [hx, hy, hz, huniform, except_ok_bind, sizeOn?]
    cases p.size? Key.globalSize.uniform with
    | none => rfl
    | some n =>
        by_cases hn : 0 < n
        · simp only [Option.filter_some, hn, decide_true, if_true]
          rfl
        · simp only [Option.filter_some, hn, decide_false]
          rfl
  rw [hread, GlobalSizes, forall_axis]
  obtain ⟨x, y, z⟩ := sizes
  constructor
  · rintro ⟨⟩
    exact ⟨rfl, rfl, rfl⟩
  · rintro ⟨hx, hy, hz⟩
    simp only [PerAxis.onAxis] at hx hy hz
    rw [hx, hy, hz]

/-! ## The rules are what is read -/

theorem Chosen.readSizes_eq {source : SizeSource} {sizes : PerAxis Int32}
    (h : Chosen d p source sizes) : readSizes d p = .ok (source, sizes) := by
  cases h with
  | localKeys hlocal hsizes =>
      rw [readSizes, (readLocal_eq_some_iff hlocal).2 hsizes]
      rfl
  | globalKeys hlocal hnone hglobal hsizes =>
      rw [readSizes, readLocal_eq_none hlocal hnone, except_ok_bind]
      simp only [(readGlobal_eq_iff hglobal).2 hsizes]
      rfl

theorem firstEmpty_take {sizes : PerAxis Int32} {dimension axis : Nat} (hd : dimension ≤ 3)
    (haxis : axis < dimension) (hempty : sizes.onAxis axis < 1)
    (hlower : ∀ lower < axis, 1 ≤ sizes.onAxis lower) :
    firstEmpty 0 (sizes.toList.take dimension) = some (axis, sizes.onAxis axis) := by
  have hget (i : Nat) (hi : i < dimension) := PerAxis.getElem?_toList_take sizes hd hi
  cases hfirst : firstEmpty 0 (sizes.toList.take dimension) with
  | none =>
      have hmem := List.mem_of_getElem? (hget axis haxis)
      exact absurd hempty (Int32.not_lt.2 (firstEmpty_eq_none hfirst _ hmem))
  | some found =>
      obtain ⟨i, size⟩ := found
      obtain ⟨j, hj, hsize, hsmall, hbefore⟩ := firstEmpty_eq_some hfirst
      rw [Nat.zero_add] at hj
      subst hj
      rcases Nat.lt_trichotomy i axis with hlt | rfl | hgt
      · rw [hget i (Nat.lt_trans hlt haxis)] at hsize
        cases hsize
        exact absurd hsmall (Int32.not_lt.2 (hlower i hlt))
      · rw [hget i haxis] at hsize
        cases hsize
        rfl
      · exact absurd hempty (Int32.not_lt.2 (hbefore axis hgt _ (hget axis haxis)))

theorem firstEmpty_take_eq_none {sizes : PerAxis Int32} {dimension : Nat} (hd : dimension ≤ 3)
    (h : ∀ axis < dimension, 1 ≤ sizes.onAxis axis) :
    firstEmpty 0 (sizes.toList.take dimension) = none := by
  cases hfirst : firstEmpty 0 (sizes.toList.take dimension) with
  | none => rfl
  | some found =>
      obtain ⟨i, size⟩ := found
      obtain ⟨j, -, hsize, hsmall, -⟩ := firstEmpty_eq_some hfirst
      have hj : j < dimension :=
        Nat.lt_of_lt_of_le (List.getElem?_eq_some_iff.1 hsize).1 (List.length_take_le _ _)
      rw [PerAxis.getElem?_toList_take sizes hd hj] at hsize
      cases hsize
      exact absurd hsmall (Int32.not_lt.2 (h j hj))

theorem Decides.read_eq {dimension : Nat} (hd : dimension ≤ 3) {x : Except Error Extent}
    (h : Decides d p dimension x) : read d p dimension = x := by
  cases h with
  | localFault hvalue =>
      rw [read, readSizes, readLocal_of_firstUnreadable hvalue]
      rfl
  | globalFault hlocal hnone hvalue =>
      rw [read, readSizes, readLocal_eq_none hlocal hnone, except_ok_bind]
      simp only [readGlobal_of_firstUnreadable hvalue]
      rfl
  | empty hchosen haxis hempty hlower =>
      rw [read, hchosen.readSizes_eq, except_ok_bind]
      simp only [firstEmpty_take hd haxis hempty hlower]
      rfl
  | sized hchosen hsizes =>
      rw [read, hchosen.readSizes_eq, except_ok_bind]
      simp only [firstEmpty_take_eq_none hd hsizes]
      rfl

/-- Whatever sizes are chosen, the extent or the lowest axis without a point is decided. -/
theorem Chosen.exists_decides {source : SizeSource} {sizes : PerAxis Int32}
    (h : Chosen d p source sizes) (dimension : Nat) : ∃ x, Decides d p dimension x := by
  by_cases hempty : ∃ axis, axis < dimension ∧ sizes.onAxis axis < 1
  · have hlowest := Nat.find_spec hempty
    refine ⟨_, .empty h hlowest.1 hlowest.2 fun lower hlower => ?_⟩
    have hnot := Nat.find_min hempty hlower
    rw [not_and, Int32.not_lt] at hnot
    exact hnot (Nat.lt_trans hlower hlowest.1)
  · refine ⟨_, .sized h fun axis haxis => Int32.not_lt.1 fun hlt => ?_⟩
    exact hempty ⟨axis, haxis, hlt⟩

theorem exists_decides (d : Defaults) (p : Parameters) (dimension : Nat) :
    ∃ x, Decides d p dimension x := by
  rcases allReadable_or_firstUnreadable p Key.localSize.toList with hlocal | ⟨value, hvalue⟩
  · by_cases hsizes : ∃ sizes, LocalSizes p sizes
    · obtain ⟨sizes, hsizes⟩ := hsizes
      exact (Chosen.localKeys hlocal hsizes).exists_decides dimension
    · rw [not_exists] at hsizes
      rcases allReadable_or_firstUnreadable p Key.globalSize.toList with hglobal | ⟨value, hvalue⟩
      · obtain ⟨sizes, hread⟩ : ∃ sizes, GlobalSizes d p sizes :=
          ⟨⟨_, _, _⟩, forall_axis.2 ⟨rfl, rfl, rfl⟩⟩
        exact (Chosen.globalKeys hlocal hsizes hglobal hread).exists_decides dimension
      · exact ⟨_, .globalFault hlocal hsizes hvalue⟩
  · exact ⟨_, .localFault hvalue⟩

theorem decides_iff {dimension : Nat} (hd : dimension ≤ 3) {x : Except Error Extent} :
    read d p dimension = x ↔ Decides d p dimension x := by
  constructor
  · rintro rfl
    obtain ⟨x, hx⟩ := exists_decides d p dimension
    rwa [hx.read_eq hd]
  · exact Decides.read_eq hd

/-! ## What follows -/

theorem sizeOn?_of_uniform {ks : Key.AxisKeys} {n : Int32} (h : p.size? ks.uniform = some n)
    (hn : 0 < n) (axis : Nat) : p.sizeOn? ks axis = some n := by
  rw [sizeOn?, h, Option.filter_some, if_pos (decide_eq_true hn), Option.some_or]

theorem mem_take_eq {sizes : PerAxis Int32} {n : Int32} (h : ∀ axis < 3, sizes.onAxis axis = n)
    {dimension : Nat} : ∀ m ∈ sizes.toList.take dimension, m = n := by
  intro m hm
  obtain ⟨hx, hy, hz⟩ := forall_axis.1 h
  have hmem : m ∈ sizes.toList := List.mem_of_mem_take hm
  simp only [PerAxis.toList, List.mem_cons, List.not_mem_nil, or_false] at hmem
  rcases hmem with rfl | rfl | rfl
  · exact hx
  · exact hy
  · exact hz

/-- A positive uniform local size is the size of every axis. -/
theorem sizes_of_uniform_local {dimension : Nat} {e : Extent} {n : Int32} (hd : dimension ≤ 3)
    (h : read d p dimension = .ok e) (hn : p.size? Key.localSize.uniform = some n) (hpos : 0 < n) :
    e.source = .localKeys ∧ ∀ m ∈ e.sizes, m = n := by
  cases (decides_iff hd).1 h with
  | sized hchosen hsizes =>
      cases hchosen with
      | localKeys hlocal hsizes =>
          refine ⟨rfl, mem_take_eq fun axis haxis => ?_⟩
          have hsize := (hsizes axis haxis).1
          rw [sizeOn?_of_uniform hn hpos] at hsize
          exact (Option.some.inj hsize).symm
      | globalKeys hlocal hnone =>
          refine absurd (fun axis haxis => ?_) (hnone (.all n))
          rw [PerAxis.onAxis_all]
          exact ⟨sizeOn?_of_uniform hn hpos axis, hpos⟩

/-- A positive uniform global size is the size of every axis wherever the global keys decide. -/
theorem sizes_of_uniform_global {dimension : Nat} {e : Extent} {n : Int32} (hd : dimension ≤ 3)
    (h : read d p dimension = .ok e) (hn : p.size? Key.globalSize.uniform = some n) (hpos : 0 < n)
    (hsource : e.source = .globalKeys) : ∀ m ∈ e.sizes, m = n := by
  cases (decides_iff hd).1 h with
  | sized hchosen hsizes =>
      cases hchosen with
      | localKeys => cases hsource
      | globalKeys hlocal hnone hglobal hsizes =>
          refine mem_take_eq fun axis haxis => ?_
          rw [hsizes axis haxis, sizeOn?_of_uniform hn hpos]
          rfl

/-- Where the local sizes decide, neither the global keys nor the defaults matter. -/
theorem read_of_localSizes {sizes : PerAxis Int32} (hlocal : p.AllReadable Key.localSize.toList)
    (hsizes : LocalSizes p sizes) {q : Parameters} (hpq : AgreeOn Key.localSize.toList p q)
    (d' : Defaults) (dimension : Nat) : read d' q dimension = read d p dimension := by
  have hp : readLocal p = .ok (some sizes) := (readLocal_eq_some_iff hlocal).2 hsizes
  have hq : readLocal q = .ok (some sizes) := (readsOnly_readLocal p q hpq).symm.trans hp
  rw [read, read, readSizes, readSizes, hp, hq]
  rfl

end

end Extent

/-- The extent is what the rules decide, and it is written to both sizes of a hierarchy and nothing
else but the bounds. Local sizes that decide are not compared with anything, and a positive uniform
size beats the sizes of the axes in its group. -/
theorem extent_decided_by_precedence (d : Defaults) (p : Parameters) (h : Hierarchy)
    (hd : 1 ≤ h.dimension ∧ h.dimension ≤ 3) :
    (∀ x, Extent.read d p h.dimension = x ↔ Extent.Decides d p h.dimension x) ∧
    (∀ e : Extent, (h.withExtent e).globalSize = e.sizes ∧ (h.withExtent e).localSize = e.sizes ∧
      (∀ f, f ∉ [.globalSize, .localSize, .lowerBound, .upperBound] →
        (h.withExtent e).ints f = h.ints f) ∧
      ∀ f, (h.withExtent e).reals f = h.reals f) ∧
    (∀ sizes, p.AllReadable Key.localSize.toList → Extent.LocalSizes p sizes →
      ∀ d' q, AgreeOn Key.localSize.toList p q →
        Extent.read d' q h.dimension = Extent.read d p h.dimension) ∧
    ∀ e n, Extent.read d p h.dimension = .ok e → 0 < n →
      (p.size? Key.localSize.uniform = some n → e.source = .localKeys ∧ ∀ m ∈ e.sizes, m = n) ∧
      (p.size? Key.globalSize.uniform = some n → e.source = .globalKeys → ∀ m ∈ e.sizes, m = n) := by
  refine ⟨fun x => Extent.decides_iff hd.2, fun e => ⟨rfl, rfl, fun f hf => ?_, fun f => ?_⟩,
    fun sizes hlocal hsizes d' q hpq => Extent.read_of_localSizes hlocal hsizes hpq d' _,
    fun e n he hn => ⟨fun hlocal => Extent.sizes_of_uniform_local hd.2 he hlocal hn,
      fun hglobal => Extent.sizes_of_uniform_global hd.2 he hglobal hn⟩⟩
  · cases f with
    | globalSize | localSize | lowerBound | upperBound => simp at hf
    | boundaryFlags | levelFactor | levelOffset | levelOffsetDenominator | ghostZones => rfl
  · cases f with
    | deltaSpace | originSpace => rfl

/-- A plane with one local size that is not positive and a uniform global size that is not either,
and a plane with a uniform local size beside a global size that does not read. -/
theorem extent_decided_by_precedence_plane :
    (1 ≤ (Hierarchy.zeroed 2).dimension ∧ (Hierarchy.zeroed 2).dimension ≤ 3) ∧
      Extent.Decides .standard
        ((Parameters.normalize .empty).insertAll [("driver::local_nx", "4"),
          ("driver::local_ny", "0"), ("driver::local_nz", "5"), ("driver::global_nsize", "-1"),
          ("driver::global_ny", "7")])
        2 (.ok ⟨.globalKeys, [10, 7]⟩) ∧
      ∃ e, Extent.read .standard
          ((Parameters.normalize .empty).insertAll [("driver::local_nsize", "6"),
            ("driver::global_nx", "many")]) 2 = .ok e ∧
        e.source = .localKeys ∧ ∀ m ∈ e.sizes, m = 6 := by
  have hd : 1 ≤ (Hierarchy.zeroed 2).dimension ∧ (Hierarchy.zeroed 2).dimension ≤ 3 := by decide
  -- keys are compared as they are, since folding them is what takes the time
  have hglobal : Extent.read .standard
      ((Parameters.normalize .empty).insertAll [("driver::local_nx", "4"),
        ("driver::local_ny", "0"), ("driver::local_nz", "5"), ("driver::global_nsize", "-1"),
        ("driver::global_ny", "7")]) 2 = .ok ⟨.globalKeys, [10, 7]⟩ := by
    simp (disch := decide) only [Extent.read, Extent.readSizes, Extent.readLocal,
      Extent.readGlobal, getAxes, getD, insertAll, List.foldl_cons, List.foldl_nil, get?_insert]
    decide +kernel
  have hlocal : Extent.read .standard
      ((Parameters.normalize .empty).insertAll [("driver::local_nsize", "6"),
        ("driver::global_nx", "many")]) 2 = .ok ⟨.localKeys, [6, 6]⟩ := by
    simp (disch := decide) only [Extent.read, Extent.readSizes, Extent.readLocal,
      insertAll, List.foldl_cons, List.foldl_nil, get?_insert]
    decide +kernel
  have hsize : ((Parameters.normalize .empty).insertAll [("driver::local_nsize", "6"),
      ("driver::global_nx", "many")]).size? Key.localSize.uniform = some 6 := by
    simp (disch := decide) only [size?, insertAll, List.foldl_cons, List.foldl_nil, value?_insert]
    decide +kernel
  obtain ⟨hdecides, -⟩ := extent_decided_by_precedence .standard _ (.zeroed 2) hd
  obtain ⟨-, -, -, huniform⟩ := extent_decided_by_precedence .standard _ (.zeroed 2) hd
  exact ⟨hd, (hdecides _).1 hglobal, _, hlocal, (huniform _ 6 hlocal (by decide)).1 hsize⟩

end GridSetup
