import GridSetup.Proofs.Resolution.Stages
import Mathlib.Data.List.TakeDrop

/-!
# Resolution with every access checked

The definitions of a resolution are total: a list is cut or indexed without asking whether it is
long enough, and a difference of integers wraps. Here the same parts are written so that they ask.
A slice must lie inside its list, an index must be below the length, a list is only copied over one
of the same length, a difference must not leave 32 bits, and a hierarchy must not be without axes.
Whatever asks in vain ends in a `Fault`, which is kept apart from the errors that an input can
cause. Arrays of three values are indexed by axes that the dimension allows, and nothing in a part
says that it allows no more than three.

The payoff is `Checked.resolve_eq`: no input of any kind reaches a fault, and where a checked
resolution ends, the unchecked one ends in the same way. The checks that make it so are made early.
The seed refuses all but one to three axes, and the extent refuses sizes below one, so the
subtractions that come later stay in range.
-/

namespace GridSetup.Checked

/-- What only a mistake in the program can cause. -/
inductive Fault where
  /-- A hierarchy without axes. -/
  | noAxes
  /-- An index or a slice beyond the end of a list. -/
  | outOfRange
  /-- A list copied over one of another length. -/
  | lengthMismatch
  /-- A difference that does not fit in 32 bits. -/
  | overflow
  deriving Repr, DecidableEq

/-- Why a checked resolution ends early. -/
inductive Stop where
  | error (e : Error)
  | fault (f : Fault)
  deriving Repr, DecidableEq

/-- What an unchecked part gives, which is never a fault. -/
def lift {α : Type} (x : Except Error α) : Except Stop α :=
  x.mapError .error

/-! ## Checked operations -/

/-- The first entries of a list, which must have that many. -/
def slice {α : Type} (length : Nat) (values : List α) : Except Stop (List α) :=
  if length ≤ values.length then .ok (values.take length) else .error (.fault .outOfRange)

/-- The entry at an index, which must be there. -/
def entryAt {α : Type} (values : List α) (index : Nat) : Except Stop α :=
  match values[index]? with
  | some a => .ok a
  | none => .error (.fault .outOfRange)

/-- The list with the entry at an index replaced, which must be there. -/
def store {α : Type} (values : List α) (index : Nat) (a : α) : Except Stop (List α) :=
  if index < values.length then .ok (values.set index a) else .error (.fault .outOfRange)

/-- The list after another one of the same length is copied over it. -/
def copyOver {α : Type} (values source : List α) : Except Stop (List α) :=
  if values.length = source.length then .ok source else .error (.fault .lengthMismatch)

/-- The difference of two integers, which must fit in 32 bits. -/
def sub (a b : Int32) : Except Stop Int32 :=
  if -0x80000000 ≤ a.toInt - b.toInt ∧ a.toInt - b.toInt ≤ 0x7fffffff then .ok (a - b)
  else .error (.fault .overflow)

/-- The list with its entries replaced one by one by what the entries of another list give, as far
as both go. -/
def assignEach {α β : Type} (f : β → Except Stop α) : List α → List β → Except Stop (List α)
  | [], _ => .ok []
  | values, [] => .ok values
  | _ :: values, b :: bs => do
    let a ← f b
    return a :: (← assignEach f values bs)

/-! ## Checked parts -/

/-- A hierarchy after edits, none of which may leave it without axes. -/
def edit (h : Hierarchy) (edits : List Hierarchy.Edit) : Except Stop Hierarchy :=
  (edits.foldlM Hierarchy.apply h).mapError fun _ => .fault .noAxes

/-- The hierarchy that resolution starts from. -/
def seed (d : Defaults) : Except Stop Hierarchy :=
  if 1 ≤ d.dimension ∧ d.dimension ≤ maxDimension then do
    let h ← (Hierarchy.new d.dimension).mapError fun _ => .fault .noAxes
    edit h [.setIteration 0, .setTime 0.0, .fillInts .levelFactor 1, .fillInts .levelOffset 0,
      .fillInts .levelOffsetDenominator 1, .fillInts .boundaryFlags 0, .fillInts .ghostZones 1]
  else .error (.error (.unsupportedDimension d.dimension))

/-- The hierarchy with its sizes and bounds. -/
def withExtent (d : Defaults) (p : Parameters) (h : Hierarchy) : Except Stop Hierarchy := do
  let (_, sizes) ← lift (Extent.readSizes d p)
  let sizes ← slice h.dimension sizes.toList
  match Extent.firstEmpty 0 sizes with
  | some (axis, size) => .error (.error (.nonPositiveSize axis size))
  | none =>
    let globalSize ← copyOver h.globalSize sizes
    let localSize ← copyOver h.localSize sizes
    let lowerBound := h.lowerBound.map fun _ => 0
    let upperBound ← assignEach (fun n => sub n 1) h.upperBound sizes
    return { h with globalSize, localSize, lowerBound, upperBound }

/-- The points of an axis before symmetry. The values of the coordinates and the choices are arrays
of three, the sizes a list of the length of the dimension. The lists of a unit box can be filled
without an index; it is asked for here all the same. -/
def axisPoints (g : Geometry) (c : Coordinates) (sizes : List Int32) (axis : Nat) :
    Except Stop AxisPoints := do
  let size ← entryAt sizes axis
  match c with
  | .unitBox => return ⟨1.0 / ofCount size, -0.5⟩
  | .range first last =>
    let lo ← entryAt first.toList axis
    let hi ← entryAt last.toList axis
    return ⟨(hi - lo) / (ofCount size - 1.0), lo⟩
  | .spaced spacing =>
    let avoid ← entryAt g.avoidOrigin.toList axis
    let dx ← entryAt spacing.toList axis
    let cells ← sub (← sub size 1) (if avoid then size % 2 else 0)
    return ⟨dx, -0.5 * ofCount cells * dx⟩

/-- One turn of the loop over the axes of the grid. -/
def placeAxis (g : Geometry) (c : Coordinates) (h : Hierarchy) (axis : Nat) :
    Except Stop Hierarchy := do
  let points ← axisPoints g c h.globalSize axis
  let deltaSpace ← store h.deltaSpace axis points.spacing
  let originSpace ← store h.originSpace axis points.origin
  return { h with deltaSpace, originSpace }

/-- One turn of the loop over the axes with a symmetry plane. -/
def mirrorAxis (g : Geometry) (h : Hierarchy) (axis : Nat) : Except Stop Hierarchy :=
  if h.dimension ≤ axis then .ok h
  else do
    let dx ← entryAt h.deltaSpace axis
    let avoid ← entryAt g.avoidOrigin.toList axis
    let originSpace ← store h.originSpace axis (if avoid then -dx / 2.0 else -dx)
    return { h with originSpace }

/-- The hierarchy with spacing and origin. -/
def withGeometry (d : Defaults) (p : Parameters) (h : Hierarchy) : Except Stop Hierarchy := do
  let g ← lift (Geometry.read d p)
  let c ← lift (Coordinates.read d p g.gridType)
  let h ← (List.range h.dimension).foldlM (placeAxis g c) h
  g.domain.mirroredAxes.foldlM (mirrorAxis g) h

/-- The grid that parameters and defaults describe. -/
def resolve (d : Defaults) (p : Parameters) : Except Stop Resolution := do
  let p := p.normalize
  let h ← seed d
  let lastIteration ← lift (readLastIteration p)
  let h ← withExtent d p h
  let h ← withGeometry d p h
  let deltaTime ← lift (timeStep d p h)
  return { hierarchy := { h with deltaTime }, lastIteration, parameters := p }

/-- The grid that the text of a parameter file and defaults describe. -/
def resolveSource (d : Defaults) (source : String) : Except Stop Resolution := do
  resolve d (← lift (Parameters.ofSourceNormalized source))

/-! ## Checked operations that are not refused -/

variable {α β : Type}

theorem lift_bind (x : Except Error α) (f : α → Except Error β) :
    lift (x >>= f) = lift x >>= fun a => lift (f a) := by
  cases x <;> rfl

theorem slice_eq {length : Nat} {values : List α} (h : length ≤ values.length) :
    slice length values = .ok (values.take length) := by
  rw [slice, if_pos h]

theorem entryAt_eq {values : List α} {index : Nat} {a : α} (h : values[index]? = some a) :
    entryAt values index = .ok a := by
  rw [entryAt, h]

theorem entryAt_onAxis (v : PerAxis α) {axis : Nat} (h : axis < 3) :
    entryAt v.toList axis = .ok (v.onAxis axis) := by
  match axis, h with
  | 0, _ | 1, _ | 2, _ => rfl

theorem store_eq {values : List α} {index : Nat} {a : α} (h : index < values.length) :
    store values index a = .ok (values.set index a) := by
  rw [store, if_pos h]

theorem copyOver_eq {values source : List α} (h : values.length = source.length) :
    copyOver values source = .ok source := by
  rw [copyOver, if_pos h]

theorem assignEach_eq {f : β → Except Stop α} {g : β → α} {bs : List β} :
    ∀ {values : List α}, values.length = bs.length → (∀ b ∈ bs, f b = .ok (g b)) →
      assignEach f values bs = .ok (bs.map g) := by
  induction bs with
  | nil =>
      intro values hlen _
      rw [List.length_nil, List.length_eq_zero_iff] at hlen
      rw [hlen]
      rfl
  | cons b bs ih =>
      intro values hlen hf
      obtain ⟨v, values, rfl⟩ := List.exists_cons_of_length_eq_add_one hlen
      have hrest := ih (by simpa using hlen) fun c hc => hf c (List.mem_cons_of_mem _ hc)
      rw [assignEach, hf b List.mem_cons_self, hrest]
      rfl

/-- A checked difference is the difference of the integers. -/
theorem toInt_eq_of_sub {a b c : Int32} (h : sub a b = .ok c) :
    c.toInt = a.toInt - b.toInt := by
  rw [sub] at h
  split at h
  · obtain rfl := Except.ok.inj h
    rw [Int32.toInt_sub, Int.bmod_eq_of_le] <;> omega
  · cases h

theorem toInt_range {n : Int32} (h : 1 ≤ n) :
    1 ≤ n.toInt ∧ n.toInt ≤ 0x7fffffff := by
  have hle : (1 : Int32).toInt ≤ n.toInt := Int32.le_iff_toInt_le.1 h
  have hone : (1 : Int32).toInt = 1 := by decide
  have hlt := n.toInt_lt
  omega

theorem toInt_shift {n : Int32} (h : 1 ≤ n) (avoid : Bool) :
    (if avoid then n % 2 else 0 : Int32).toInt = if avoid then n.toInt % 2 else 0 := by
  have hpos := (toInt_range h).1
  have htwo : (2 : Int32).toInt = 2 := by decide
  cases avoid with
  | false => rfl
  | true =>
      simp only [if_true]
      rw [Int32.toInt_mod, htwo, Int.tmod_eq_emod_of_nonneg (by omega)]

theorem sub_one {n : Int32} (h : 1 ≤ n) : sub n 1 = .ok (n - 1) := by
  have hrange := toInt_range h
  have hone : (1 : Int32).toInt = 1 := by decide
  rw [sub, if_pos]
  omega

/-- The size of an axis has a predecessor. -/
theorem toInt_sub_one {n : Int32} (h : 1 ≤ n) : (n - 1).toInt = n.toInt - 1 :=
  toInt_eq_of_sub (sub_one h)

/-- The cells that a centred axis is balanced on are counted in range, down to minus one. -/
theorem sub_shift {n : Int32} (h : 1 ≤ n) (avoid : Bool) :
    sub (n - 1) (if avoid then n % 2 else 0) = .ok (centredCells n avoid) := by
  have hrange := toInt_range h
  have hpred := toInt_sub_one h
  have hshift := toInt_shift h avoid
  rw [sub, if_pos]
  · rfl
  · rw [hpred, hshift]
    split <;> omega

theorem toInt_centredCells {n : Int32} (h : 1 ≤ n) (avoid : Bool) :
    (centredCells n avoid).toInt = n.toInt - 1 - if avoid then n.toInt % 2 else 0 := by
  rw [toInt_eq_of_sub (sub_shift h avoid), toInt_sub_one h, toInt_shift h avoid]

/-! ## The parts, one after the other -/

theorem seed_eq (d : Defaults) : seed d = lift (Hierarchy.seed d) := by
  rw [seed, Hierarchy.seed]
  split
  · next hd =>
      have hne : d.dimension ≠ 0 := by omega
      rw [Hierarchy.new, if_neg hne]
      show Except.ok { Hierarchy.zeroed d.dimension with
          time := 0.0
          levelFactor := (List.replicate d.dimension (0 : Int32)).map fun _ => 1
          levelOffset := (List.replicate d.dimension (0 : Int32)).map fun _ => 0
          levelOffsetDenominator := (List.replicate d.dimension (0 : Int32)).map fun _ => 1
          boundaryFlags := (List.replicate (2 * d.dimension) (0 : Int32)).map fun _ => 0
          ghostZones := (List.replicate d.dimension (0 : Int32)).map fun _ => 1 } =
        Except.ok (Hierarchy.seeded d.dimension)
      simp only [List.map_replicate]
      rfl
  · rfl

theorem map_const_of_length {xs : List α} {ys : List β} {c : Int32} (h : xs.length = ys.length) :
    (xs.map fun _ => c) = ys.map fun _ => c := by
  rw [List.map_const', List.map_const', h]

theorem withExtent_eq {h : Hierarchy} (hwf : h.WellFormed) (hd : h.dimension ≤ 3) (d : Defaults)
    (p : Parameters) :
    withExtent d p h = lift ((Extent.read d p h.dimension).map h.withExtent) := by
  rw [withExtent, Extent.read]
  cases Extent.readSizes d p with
  | error e => rfl
  | ok read =>
      obtain ⟨source, sizes⟩ := read
      have hslice : slice h.dimension sizes.toList = .ok (sizes.toList.take h.dimension) :=
        slice_eq (by rw [PerAxis.length_toList]; exact hd)
      show (slice h.dimension sizes.toList >>= _) = lift (Except.map h.withExtent
        (match Extent.firstEmpty 0 (sizes.toList.take h.dimension) with
        | some (axis, size) => throw (.nonPositiveSize axis size)
        | none => return ⟨source, sizes.toList.take h.dimension⟩))
      rw [hslice]
      show (match Extent.firstEmpty 0 (sizes.toList.take h.dimension) with
        | some (axis, size) => Except.error (Stop.error (.nonPositiveSize axis size))
        | none => _) = _
      cases he : Extent.firstEmpty 0 (sizes.toList.take h.dimension) with
      | some empty => rfl
      | none =>
          have hpos := Extent.firstEmpty_eq_none he
          have hlen : (sizes.toList.take h.dimension).length = h.dimension := by
            rw [List.length_take, PerAxis.length_toList]
            omega
          have hglobal : h.globalSize.length = h.dimension := hwf.length_ints .globalSize
          have hlocal : h.localSize.length = h.dimension := hwf.length_ints .localSize
          have hlower : h.lowerBound.length = h.dimension := hwf.length_ints .lowerBound
          have hupper : h.upperBound.length = h.dimension := hwf.length_ints .upperBound
          have hbounds := assignEach_eq (f := fun n => sub n 1) (g := (· - 1))
            (hupper.trans hlen.symm) fun n hn => sub_one (hpos n hn)
          simp only []
          rw [copyOver_eq (hglobal.trans hlen.symm), copyOver_eq (hlocal.trans hlen.symm), hbounds,
            map_const_of_length (hlower.trans hlen.symm)]
          rfl

/-! ## Loops over axes

A loop that writes one entry for each axis is followed by the axes it has been through: `overwrite`
is the list in between. One turn adds an axis to them (`set_overwrite`), and the run of the loop is
an induction over the axes still to come (`foldlM_states`). -/

/-- The list with the entries at some indices replaced. -/
def overwrite (indices : List Nat) (f : Nat → α) (values : List α) : List α :=
  values.mapIdx fun i a => if i ∈ indices then f i else a

theorem overwrite_nil (f : Nat → α) (values : List α) : overwrite [] f values = values := by
  apply List.ext_getElem?
  intro i
  simp [overwrite]

theorem getElem?_overwrite (indices : List Nat) (f : Nat → α) (values : List α) (i : Nat) :
    (overwrite indices f values)[i]? = values[i]?.map fun a => if i ∈ indices then f i else a := by
  rw [overwrite, List.getElem?_mapIdx]

theorem length_overwrite (indices : List Nat) (f : Nat → α) (values : List α) :
    (overwrite indices f values).length = values.length :=
  List.length_mapIdx

theorem set_overwrite (indices : List Nat) (i : Nat) (f : Nat → α) (values : List α) :
    (overwrite indices f values).set i (f i) = overwrite (indices ++ [i]) f values := by
  apply List.ext_getElem?
  intro j
  rw [List.getElem?_set, length_overwrite, getElem?_overwrite, getElem?_overwrite]
  by_cases hij : i = j
  · subst hij
    by_cases hlt : i < values.length
    · simp [hlt]
    · simp [hlt]
  · have hji : ¬ j = i := fun h => hij h.symm
    simp [hij, hji]

/-- An axis beyond the end is not there to be replaced. -/
theorem overwrite_beyond {indices : List Nat} {i : Nat} {f : Nat → α} {values : List α}
    (h : values.length ≤ i) : overwrite (indices ++ [i]) f values = overwrite indices f values := by
  rw [← set_overwrite, List.set_eq_of_length_le (by rwa [length_overwrite])]

theorem foldlM_states {σ ε : Type} {f : σ → Nat → Except ε σ} {state : List Nat → σ} :
    ∀ {axes seen : List Nat}, (∀ seen, ∀ i ∈ axes, f (state seen) i = .ok (state (seen ++ [i]))) →
      axes.foldlM f (state seen) = .ok (state (seen ++ axes)) := by
  intro axes
  induction axes with
  | nil =>
      intro seen _
      rw [List.append_nil]
      rfl
  | cons i rest ih =>
      intro seen hstep
      rw [List.foldlM_cons, hstep seen i List.mem_cons_self]
      show rest.foldlM f (state (seen ++ [i])) = _
      rw [ih fun seen j hj => hstep seen j (List.mem_cons_of_mem _ hj), List.append_assoc]
      rfl

/-- What the loops over axes rely on: lists as long as there are axes, no more axes than arrays of
three have entries, and no axis without a point. -/
structure Sized (h : Hierarchy) : Prop where
  dimension_le : h.dimension ≤ 3
  globalSize : h.globalSize.length = h.dimension
  deltaSpace : h.deltaSpace.length = h.dimension
  originSpace : h.originSpace.length = h.dimension
  size_pos : ∀ n ∈ h.globalSize, 1 ≤ n

theorem Sized.exists_size {h : Hierarchy} (hs : Sized h) {axis : Nat} (ha : axis < h.dimension) :
    ∃ n, h.globalSize[axis]? = some n ∧ 1 ≤ n := by
  have hlt : axis < h.globalSize.length := by rwa [hs.globalSize]
  exact ⟨h.globalSize[axis], List.getElem?_eq_getElem hlt, hs.size_pos _ (List.getElem_mem hlt)⟩

/-- The points of an axis before symmetry, for the size that the list has there. -/
def plainPoints (g : Geometry) (c : Coordinates) (sizes : List Int32) (axis : Nat) : AxisPoints :=
  c.points axis (sizes.getD axis 0) (g.avoidOrigin.onAxis axis)

theorem axisPoints_eq {h : Hierarchy} (hs : Sized h) (g : Geometry) (c : Coordinates) {axis : Nat}
    (ha : axis < h.dimension) :
    axisPoints g c h.globalSize axis = .ok (plainPoints g c h.globalSize axis) := by
  obtain ⟨n, hn, hpos⟩ := hs.exists_size ha
  have hthree : axis < 3 := Nat.lt_of_lt_of_le ha hs.dimension_le
  have hsize : h.globalSize.getD axis 0 = n := by rw [List.getD_eq_getElem?_getD, hn]; rfl
  rw [axisPoints, entryAt_eq hn, plainPoints, hsize]
  cases c with
  | unitBox => rfl
  | range first last =>
      show (entryAt first.toList axis >>= _) = _
      rw [entryAt_onAxis first hthree]
      show (entryAt last.toList axis >>= _) = _
      rw [entryAt_onAxis last hthree]
      rfl
  | spaced spacing =>
      show (entryAt g.avoidOrigin.toList axis >>= _) = _
      rw [entryAt_onAxis g.avoidOrigin hthree]
      show (entryAt spacing.toList axis >>= _) = _
      rw [entryAt_onAxis spacing hthree]
      show (sub n 1 >>= _) = _
      rw [sub_one hpos]
      show (sub (n - 1) (if g.avoidOrigin.onAxis axis then n % 2 else 0) >>= _) = _
      rw [sub_shift hpos]
      rfl

/-- The hierarchy when the points of some axes are placed. -/
def placed (g : Geometry) (c : Coordinates) (h : Hierarchy) (axes : List Nat) : Hierarchy :=
  { h with
    deltaSpace :=
      overwrite axes (fun i => (plainPoints g c h.globalSize i).spacing) h.deltaSpace
    originSpace :=
      overwrite axes (fun i => (plainPoints g c h.globalSize i).origin) h.originSpace }

theorem placeAxis_placed {h : Hierarchy} (hs : Sized h) (g : Geometry) (c : Coordinates)
    (seen : List Nat) {axis : Nat} (ha : axis < h.dimension) :
    placeAxis g c (placed g c h seen) axis = .ok (placed g c h (seen ++ [axis])) := by
  have hdelta : axis < (placed g c h seen).deltaSpace.length := by
    show axis < (overwrite _ _ h.deltaSpace).length
    rwa [length_overwrite, hs.deltaSpace]
  have horigin : axis < (placed g c h seen).originSpace.length := by
    show axis < (overwrite _ _ h.originSpace).length
    rwa [length_overwrite, hs.originSpace]
  rw [placeAxis]
  show (axisPoints g c h.globalSize axis >>= _) = _
  rw [axisPoints_eq hs g c ha]
  show (store (placed g c h seen).deltaSpace axis _ >>= _) = _
  rw [store_eq hdelta]
  show (store (placed g c h seen).originSpace axis _ >>= _) = _
  rw [store_eq horigin, placed, placed, ← set_overwrite, ← set_overwrite]
  rfl

/-- The origin of an axis with a symmetry plane. -/
def mirroredOrigin (g : Geometry) (h : Hierarchy) (axis : Nat) : Float :=
  let dx := h.deltaSpace.getD axis 0
  if g.avoidOrigin.onAxis axis then -dx / 2.0 else -dx

/-- The hierarchy when some axes are mirrored. -/
def mirrored (g : Geometry) (h : Hierarchy) (axes : List Nat) : Hierarchy :=
  { h with originSpace := overwrite axes (mirroredOrigin g h) h.originSpace }

theorem mirrorAxis_mirrored {h : Hierarchy} (hs : Sized h) (g : Geometry) (seen : List Nat)
    (axis : Nat) :
    mirrorAxis g (mirrored g h seen) axis = .ok (mirrored g h (seen ++ [axis])) := by
  rw [mirrorAxis]
  show (if h.dimension ≤ axis then _ else _) = _
  split
  · next hle =>
      rw [mirrored, mirrored, overwrite_beyond (by rwa [hs.originSpace])]
  · next hlt =>
      have ha : axis < h.dimension := Nat.lt_of_not_le hlt
      have hthree : axis < 3 := Nat.lt_of_lt_of_le ha hs.dimension_le
      have hdelta : axis < h.deltaSpace.length := by rwa [hs.deltaSpace]
      have hdx : h.deltaSpace[axis]? = some (h.deltaSpace.getD axis 0) := by
        rw [List.getD_eq_getElem?_getD, List.getElem?_eq_getElem hdelta]
        rfl
      have horigin : axis < (mirrored g h seen).originSpace.length := by
        show axis < (overwrite _ _ h.originSpace).length
        rwa [length_overwrite, hs.originSpace]
      show (entryAt h.deltaSpace axis >>= _) = _
      rw [entryAt_eq hdx]
      show (entryAt g.avoidOrigin.toList axis >>= _) = _
      rw [entryAt_onAxis g.avoidOrigin hthree]
      show (store (mirrored g h seen).originSpace axis (mirroredOrigin g h axis) >>= _) = _
      rw [store_eq horigin, mirrored, mirrored, ← set_overwrite]
      rfl

theorem getElem?_pointsFrom (g : Geometry) (c : Coordinates) {sizes : List Int32} :
    ∀ {axis i : Nat}, (g.pointsFrom c axis sizes)[i]? =
      sizes[i]?.map fun n => g.points c (axis + i) n := by
  induction sizes with
  | nil =>
      intro axis i
      rfl
  | cons n rest ih =>
      intro axis i
      rw [Geometry.pointsFrom]
      cases i with
      | zero => rfl
      | succ i =>
          rw [List.getElem?_cons_succ, List.getElem?_cons_succ, ih]
          simp only [Nat.add_assoc, Nat.add_comm 1 i]

/-- After the loop over all axes the entry of each axis is its own, and there is no other. -/
theorem getElem?_overwrite_range {f : Nat → α} {values : List α} {n : Nat} (h : values.length = n)
    (i : Nat) :
    (overwrite (List.range n) f values)[i]? = if i < n then some (f i) else none := by
  rw [getElem?_overwrite]
  by_cases hi : i < n
  · have hlt : i < values.length := by rwa [h]
    rw [List.getElem?_eq_getElem hlt, if_pos hi, Option.map_some, if_pos (List.mem_range.2 hi)]
  · rw [List.getElem?_eq_none (by omega), if_neg hi]
    rfl

theorem getElem?_pointsFrom_sized {h : Hierarchy} (hs : Sized h) (g : Geometry) (c : Coordinates)
    (i : Nat) : (g.pointsFrom c 0 h.globalSize)[i]? =
      if i < h.dimension then some (g.points c i (h.globalSize.getD i 0)) else none := by
  rw [getElem?_pointsFrom, Nat.zero_add]
  by_cases hi : i < h.dimension
  · obtain ⟨n, hn, -⟩ := hs.exists_size hi
    rw [if_pos hi, List.getD_eq_getElem?_getD, hn]
    rfl
  · rw [if_neg hi, List.getElem?_eq_none (by rw [hs.globalSize]; omega)]
    rfl

theorem spacing_points (g : Geometry) (c : Coordinates) (sizes : List Int32) (i : Nat) :
    (g.points c i (sizes.getD i 0)).spacing = (plainPoints g c sizes i).spacing := by
  rw [Geometry.points, plainPoints]
  split <;> rfl

theorem deltaSpace_placed {h : Hierarchy} (hs : Sized h) (g : Geometry) (c : Coordinates) :
    (placed g c h (List.range h.dimension)).deltaSpace = (h.withGeometry g c).deltaSpace := by
  apply List.ext_getElem?
  intro i
  show (overwrite _ _ h.deltaSpace)[i]? = ((g.pointsFrom c 0 h.globalSize).map _)[i]?
  rw [getElem?_overwrite_range hs.deltaSpace, List.getElem?_map, getElem?_pointsFrom_sized hs]
  split
  · rw [Option.map_some, spacing_points]
  · rfl

/-- The two loops leave what the geometry says. -/
theorem mirrored_placed {h : Hierarchy} (hs : Sized h) (g : Geometry) (c : Coordinates) :
    mirrored g (placed g c h (List.range h.dimension)) g.domain.mirroredAxes =
      h.withGeometry g c := by
  have horigin : (mirrored g (placed g c h (List.range h.dimension))
      g.domain.mirroredAxes).originSpace = (h.withGeometry g c).originSpace := by
    apply List.ext_getElem?
    intro i
    show (overwrite _ _ (overwrite _ _ h.originSpace))[i]? =
      ((g.pointsFrom c 0 h.globalSize).map _)[i]?
    rw [getElem?_overwrite, getElem?_overwrite_range hs.originSpace, List.getElem?_map,
      getElem?_pointsFrom_sized hs]
    -- the second loop writes over the first where it goes, and reads the spacing the first left
    by_cases hi : i < h.dimension
    · have hdx : (placed g c h (List.range h.dimension)).deltaSpace.getD i 0 =
          (plainPoints g c h.globalSize i).spacing := by
        show (overwrite _ _ h.deltaSpace).getD i 0 = _
        rw [List.getD_eq_getElem?_getD, getElem?_overwrite_range hs.deltaSpace, if_pos hi]
        rfl
      rw [if_pos hi, if_pos hi, Option.map_some, Option.map_some, mirroredOrigin, hdx,
        Geometry.points, Domain.mirrors]
      by_cases hm : i ∈ g.domain.mirroredAxes
      · rw [if_pos hm, if_pos (List.contains_iff_mem.2 hm)]
        rfl
      · rw [if_neg hm, if_neg fun hc => hm (List.contains_iff_mem.1 hc)]
        rfl
    · rw [if_neg hi, if_neg hi]
      rfl
  calc mirrored g (placed g c h (List.range h.dimension)) g.domain.mirroredAxes
      = { placed g c h (List.range h.dimension) with
            originSpace := (mirrored g (placed g c h (List.range h.dimension))
              g.domain.mirroredAxes).originSpace } := rfl
    _ = { h with
            deltaSpace := (placed g c h (List.range h.dimension)).deltaSpace
            originSpace := (h.withGeometry g c).originSpace } := by rw [horigin]; rfl
    _ = h.withGeometry g c := by rw [deltaSpace_placed hs]; rfl

theorem withGeometry_eq {h : Hierarchy} (hs : Sized h) (d : Defaults) (p : Parameters) :
    withGeometry d p h = lift (do
      let g ← Geometry.read d p
      let c ← Coordinates.read d p g.gridType
      return h.withGeometry g c) := by
  rw [withGeometry, lift_bind]
  congr 1
  funext g
  rw [lift_bind]
  congr 1
  funext c
  have hplace : (List.range h.dimension).foldlM (placeAxis g c) (placed g c h []) =
      .ok (placed g c h ([] ++ List.range h.dimension)) :=
    foldlM_states fun seen i hi => placeAxis_placed hs g c seen (List.mem_range.1 hi)
  have hnothing : placed g c h [] = h := by rw [placed, overwrite_nil, overwrite_nil]
  rw [hnothing, List.nil_append] at hplace
  rw [hplace]
  have hsized : Sized (placed g c h (List.range h.dimension)) :=
    { dimension_le := hs.dimension_le
      globalSize := hs.globalSize
      deltaSpace := (length_overwrite ..).trans hs.deltaSpace
      originSpace := (length_overwrite ..).trans hs.originSpace
      size_pos := hs.size_pos }
  have hmirror : g.domain.mirroredAxes.foldlM (mirrorAxis g)
      (mirrored g (placed g c h (List.range h.dimension)) []) =
      .ok (mirrored g (placed g c h (List.range h.dimension)) ([] ++ g.domain.mirroredAxes)) :=
    foldlM_states fun seen i _ => mirrorAxis_mirrored hsized g seen i
  rw [List.nil_append, mirrored_placed hs] at hmirror
  rw [mirrored, overwrite_nil] at hmirror
  exact hmirror

/-! ## The whole -/

theorem wellFormed_seeded {dimension : Nat} (h : 1 ≤ dimension) :
    (Hierarchy.seeded dimension).WellFormed where
  dimension_pos := h
  length_ints f := by cases f <;> exact List.length_replicate
  length_reals f := by cases f <;> exact List.length_replicate

theorem sized_withExtent {h : Hierarchy} (hwf : h.WellFormed) (hd : h.dimension ≤ 3)
    {d : Defaults} {p : Parameters} {e : Extent} (he : Extent.read d p h.dimension = .ok e) :
    Sized (h.withExtent e) where
  dimension_le := hd
  globalSize := Extent.length_sizes he hd
  deltaSpace := hwf.length_reals .deltaSpace
  originSpace := hwf.length_reals .originSpace
  size_pos := by
    obtain ⟨-, -, -, hpos⟩ := Extent.read_eq_ok he
    exact hpos

/-- No check fails in a resolution. -/
theorem resolve_eq (d : Defaults) (p : Parameters) : resolve d p = lift (GridSetup.resolve d p) := by
  rw [resolve, GridSetup.resolve, seed_eq]
  simp only []
  cases hs : Hierarchy.seed d with
  | error e => rfl
  | ok h =>
      obtain ⟨⟨hpos, hle⟩, rfl⟩ := Hierarchy.seed_eq_ok hs
      -- what the seed accepts is all that the later parts rely on, beside the sizes
      have hwf := wellFormed_seeded hpos
      show (lift (readLastIteration p.normalize) >>= _) = lift (readLastIteration p.normalize >>= _)
      rw [lift_bind]
      congr 1
      funext last
      rw [withExtent_eq hwf hle]
      cases he : Extent.read d p.normalize (Hierarchy.seeded d.dimension).dimension with
      | error e => rfl
      | ok extent =>
          show (withGeometry d p.normalize ((Hierarchy.seeded d.dimension).withExtent extent) >>= _) =
            lift (Geometry.read d p.normalize >>= _)
          rw [withGeometry_eq (sized_withExtent hwf hle he), lift_bind, lift_bind, bind_assoc]
          congr 1
          funext g
          rw [lift_bind, lift_bind, bind_assoc]
          congr 1
          funext c
          show (lift (timeStep _ _ _) >>= _) = lift (timeStep _ _ _ >>= _)
          rw [lift_bind]
          rfl

/-- No check fails between a text and its grid. -/
theorem resolveSource_eq (d : Defaults) (source : String) :
    resolveSource d source = lift (GridSetup.resolveSource d source) := by
  rw [resolveSource, GridSetup.resolveSource, lift_bind]
  congr 1
  funext p
  exact resolve_eq d p

end GridSetup.Checked
