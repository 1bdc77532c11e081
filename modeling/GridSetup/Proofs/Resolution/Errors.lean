import GridSetup.Proofs.Parameters.Reading
import GridSetup.Proofs.Resolution.Footprint

/-!
# Every error is true of its input

An error carries data, and a reader of the message takes it for a fact about the
file: that this value is there and does not read, that this word is none of the
known ones, that this parameter is needed and missing. `Explains` states the
fact for each error. It speaks of the tidied parameters and of the recognised
keys, so an error is never about a value that is not in the file.

A part of a resolution fails in the ways its reads fail, and a sequence in the
ways its parts do (`FailsBy.bind`). What is tried later only matters if what came
before succeeded, and that is also where the order of the errors comes from: a
text with a malformed line has no parameters, and a dimension that is not
supported is refused before anything is read.
-/

namespace GridSetup

open Parameter

/-! ## What an error says -/

def Key.readAs (t : ValueType) (keys : List String) : List (String × ValueType) :=
  keys.map fun key => (key, t)

/-- The recognised keys and the types that they are read as. -/
def Key.types : List (String × ValueType) :=
  readAs .nat32 [lastIteration] ++ readAs .int32 globalSize.toList ++ readAs .int32 localSize.toList
    ++ readAs .word [gridType, domain] ++ readAs .flag avoidOrigin.toList
    ++ readAs .double rangeMin.toList ++ readAs .double rangeMax.toList
    ++ readAs .double spacing.toList ++ readAs .word [timeStepMethod]
    ++ readAs .double [timeStep, stepFactor, courantFactor, waveSpeed, crossingTime]

/-- The settings that every axis has, with the types of their values. -/
def Key.perAxis : List (AxisKeys × ValueType) :=
  [(globalSize, .int32), (localSize, .int32), (avoidOrigin, .flag), (rangeMin, .double),
    (rangeMax, .double), (spacing, .double)]

theorem Key.mem_types_of_perAxis {ks : AxisKeys} {t : ValueType} (h : (ks, t) ∈ perAxis) :
    ∀ key ∈ ks.toList, (key, t) ∈ types := by
  intro key hkey
  simp only [perAxis, List.mem_cons, Prod.mk.injEq, List.not_mem_nil, or_false] at h
  rcases h with ⟨rfl, rfl⟩ | ⟨rfl, rfl⟩ | ⟨rfl, rfl⟩ | ⟨rfl, rfl⟩ | ⟨rfl, rfl⟩ | ⟨rfl, rfl⟩
  all_goals simp [types, readAs, hkey]

theorem Key.map_fst_types : Key.types.map Prod.fst = Key.recognised := by
  decide

theorem Key.mem_recognised_of_types {key : String} {t : ValueType} (h : (key, t) ∈ Key.types) :
    key ∈ Key.recognised := by
  rw [← Key.map_fst_types]
  exact List.mem_map_of_mem h

def ChoiceKind.key : ChoiceKind → String
  | .gridType => Key.gridType
  | .domain => Key.domain
  | .timeStepMethod => Key.timeStepMethod

theorem ChoiceKind.key_mem_types (kind : ChoiceKind) : (kind.key, .word) ∈ Key.types := by
  cases kind <;> simp [ChoiceKind.key, Key.types, Key.readAs]

def ChoiceKind.words : ChoiceKind → List String
  | .gridType => (Choice.all : List GridType).map Choice.word
  | .domain => (Choice.all : List Domain).map Choice.word
  | .timeStepMethod => (Choice.all : List TimeStepMethod).map Choice.word

/-- The key without which a method has no time step. -/
def TimeStepMethod.needs? : TimeStepMethod → Option String
  | .given => some Key.timeStep
  | .courantStatic => none
  | .courantSpeed => some Key.waveSpeed
  | .courantTime => none

/-- What an error says of tidy parameters is so. -/
inductive Explains (d : Defaults) (p : Parameters) : Error → Prop where
  | unsupportedDimension : ¬ (1 ≤ d.dimension ∧ d.dimension ≤ 3) →
      Explains d p (.unsupportedDimension d.dimension)
  | unreadableValue {key value : String} {t : ValueType} : key ∈ Key.recognised →
      (key, t) ∈ Key.types → p.value? key = some value →
      (∀ token, Text.firstWord value.toList = some token → t.readToken token = none) →
      Explains d p (.unreadableValue value t)
  | unknownWord {kind : ChoiceKind} {value : String} {token : List Char} :
      p.value? kind.key = some value → Text.firstWord value.toList = some token →
      (∀ word ∈ kind.words, Text.asciiLower token ≠ Text.asciiLower word.toList) →
      Explains d p (.unknownWord kind (String.ofList token))
  | methodNeeds {method : TimeStepMethod} {key : String} :
      TimeStepMethod.read d p = .ok method → method.needs? = some key → p.value? key = none →
      Explains d p (.methodNeeds method key)
  | nonPositiveSize {axis : Nat} {size : Int32} {source : SizeSource} {sizes : PerAxis Int32} :
      Extent.readSizes d p = .ok (source, sizes) → axis < d.dimension →
      sizes.onAxis axis = size → size < 1 → (∀ lower < axis, 1 ≤ sizes.onAxis lower) →
      Explains d p (.nonPositiveSize axis size)

/-! ## Ways to fail -/

/-- Every error of an outcome has a property. -/
def FailsBy {α : Type} (P : Error → Prop) (x : Except Error α) : Prop :=
  ∀ e, x = .error e → P e

section

variable {α β : Type} {P : Error → Prop}

theorem FailsBy.ok (a : α) : FailsBy P (.ok a) := by
  intro e h
  cases h

theorem FailsBy.error {e : Error} (h : P e) : FailsBy P (.error e : Except Error α) := by
  rintro _ ⟨⟩
  exact h

theorem FailsBy.bind {x : Except Error α} {f : α → Except Error β} (hx : FailsBy P x)
    (hf : ∀ a, x = .ok a → FailsBy P (f a)) : FailsBy P (x >>= f) := by
  intro e h
  cases x with
  | error e' =>
      cases h
      exact hx e rfl
  | ok a => exact hf a rfl e h

theorem FailsBy.map {x : Except Error α} (hx : FailsBy P x) (f : α → β) : FailsBy P (x.map f) := by
  intro e h
  cases x with
  | error e' =>
      cases h
      exact hx e rfl
  | ok a => cases h

end

/-! ## Reads -/

section

variable {d : Defaults} {p : Parameters}

theorem failsBy_get? {key : String} {t : ValueType} (h : (key, t) ∈ Key.types) :
    FailsBy (Explains d p) (p.get? t key) := by
  rw [Parameters.get?]
  cases hvalue : p.value? key with
  | none => exact .ok _
  | some value =>
      simp only [Parameters.readValue]
      cases hread : (Text.firstWord value.toList).bind t.readToken with
      | some v => exact .ok _
      | none =>
          refine .error (.unreadableValue (Key.mem_recognised_of_types h) h hvalue ?_)
          intro token htoken
          rwa [htoken] at hread

theorem failsBy_getD {key : String} {t : ValueType} (h : (key, t) ∈ Key.types)
    (default : t.Carrier) : FailsBy (Explains d p) (p.getD t key default) :=
  (failsBy_get? h).map _

theorem failsBy_getAxes {ks : Key.AxisKeys} {t : ValueType} (h : (ks, t) ∈ Key.perAxis)
    (default : PerAxis t.Carrier) (accept : t.Carrier → Bool) :
    FailsBy (Explains d p) (p.getAxes t ks default accept) := by
  have hkeys := Key.mem_types_of_perAxis h
  have hx := hkeys ks.axes.x (by simp [Key.AxisKeys.toList, PerAxis.toList])
  have hy := hkeys ks.axes.y (by simp [Key.AxisKeys.toList, PerAxis.toList])
  have hz := hkeys ks.axes.z (by simp [Key.AxisKeys.toList, PerAxis.toList])
  have huniform := hkeys ks.uniform (by simp [Key.AxisKeys.toList])
  refine (failsBy_getD hx _).bind fun x _ => ?_
  refine (failsBy_getD hy _).bind fun y _ => ?_
  refine (failsBy_getD hz _).bind fun z _ => ?_
  refine (failsBy_get? huniform).bind fun uniform _ => ?_
  cases uniform with
  | none => exact .ok _
  | some u => exact .ok _

/-- What was read is the first word of a value that is there. -/
theorem Parameters.get?_eq_ok_some {key : String} {t : ValueType} {v : t.Carrier}
    (h : p.get? t key = .ok (some v)) : ∃ value token, p.value? key = some value ∧
      Text.firstWord value.toList = some token ∧ t.readToken token = some v := by
  rw [Parameters.get?] at h
  cases hvalue : p.value? key with
  | none =>
      rw [hvalue] at h
      cases h
  | some value =>
      simp only [hvalue, Parameters.readValue] at h
      cases hread : (Text.firstWord value.toList).bind t.readToken with
      | none =>
          rw [hread] at h
          cases h
      | some w =>
          rw [hread] at h
          cases h
          obtain ⟨token, htoken, hv⟩ := Option.bind_eq_some_iff.1 hread
          exact ⟨value, token, rfl, htoken, hv⟩

theorem Parameters.get?_eq_ok_none {key : String} {t : ValueType}
    (h : p.get? t key = .ok none) : p.value? key = none := by
  rw [Parameters.get?] at h
  cases hvalue : p.value? key with
  | none => rfl
  | some value =>
      simp only [hvalue] at h
      cases hread : Parameters.readValue t value with
      | error e =>
          rw [hread] at h
          cases h
      | ok v =>
          rw [hread] at h
          cases h

theorem ChoiceKind.asciiLower_words {kind : ChoiceKind} {word : String} (h : word ∈ kind.words) :
    Text.asciiLower word.toList = word.toList := by
  have hall : ∀ kind : ChoiceKind, ∀ word ∈ kind.words,
      Text.asciiLower word.toList = word.toList := by
    intro kind
    cases kind <;> decide
  exact hall kind word h

theorem failsBy_getChoiceD {α : Type} [Choice α]
    (hwords : (Choice.kind α).words = (Choice.all : List α).map Choice.word) (default : α) :
    FailsBy (Explains d p) (p.getChoiceD (Choice.kind α).key default) := by
  refine (failsBy_get? (ChoiceKind.key_mem_types _)).bind fun word hread => ?_
  cases word with
  | none => exact .ok _
  | some word =>
      obtain ⟨value, token, hvalue, htoken, hword⟩ := Parameters.get?_eq_ok_some hread
      cases hword
      simp only [Parameters.choose]
      cases hfind : (Choice.find? (String.ofList token) : Option α) with
      | some a => exact .ok _
      | none =>
          refine .error (.unknownWord hvalue htoken fun word hmem heq => ?_)
          rw [ChoiceKind.asciiLower_words hmem] at heq
          rw [hwords] at hmem
          obtain ⟨a, ha, rfl⟩ := List.mem_map.1 hmem
          have hnone := List.find?_eq_none.1 hfind a ha
          rw [String.toList_ofList, heq] at hnone
          exact hnone (beq_self_eq_true _)

/-! ## The parts -/

theorem failsBy_readLocal : FailsBy (Explains d p) (Extent.readLocal p) := by
  have hkeys : ∀ key ∈ Key.localSize.toList, (key, .int32) ∈ Key.types :=
    Key.mem_types_of_perAxis (by simp [Key.perAxis])
  refine (failsBy_get? (hkeys _ (by decide))).bind fun x _ => ?_
  refine (failsBy_get? (hkeys _ (by decide))).bind fun y _ => ?_
  refine (failsBy_get? (hkeys _ (by decide))).bind fun z _ => ?_
  refine (failsBy_get? (hkeys _ (by decide))).bind fun uniform _ => ?_
  -- what is made of the four values never fails
  split
  split
  · exact .ok _
  · exact .ok _

theorem failsBy_readSizes : FailsBy (Explains d p) (Extent.readSizes d p) := by
  refine failsBy_readLocal.bind fun sizes _ => ?_
  cases sizes with
  | some sizes => exact .ok _
  | none => exact (failsBy_getAxes (by simp [Key.perAxis]) _ _).bind fun sizes _ => .ok _

theorem Extent.firstEmpty_eq_some {sizes : List Int32} {start axis : Nat} {size : Int32}
    (h : Extent.firstEmpty start sizes = some (axis, size)) : ∃ i, axis = start + i ∧
      sizes[i]? = some size ∧ size < 1 ∧ ∀ j < i, ∀ n, sizes[j]? = some n → 1 ≤ n := by
  induction sizes generalizing start with
  | nil => cases h
  | cons n rest ih =>
      rw [Extent.firstEmpty] at h
      split at h
      · next hn =>
          cases h
          exact ⟨0, rfl, rfl, hn, fun j hj => absurd hj (Nat.not_lt_zero j)⟩
      · next hn =>
          obtain ⟨i, rfl, hsize, hlt, hlower⟩ := ih h
          refine ⟨i + 1, by omega, hsize, hlt, fun j hj m hm => ?_⟩
          cases j with
          | zero =>
              cases hm
              exact Int32.not_lt.1 hn
          | succ j => exact hlower j (by omega) m hm

theorem PerAxis.getElem?_toList_take {α : Type} (v : PerAxis α) {n i : Nat} (hn : n ≤ 3)
    (hi : i < n) : (v.toList.take n)[i]? = some (v.onAxis i) := by
  rw [List.getElem?_take_of_lt hi]
  match i, Nat.lt_of_lt_of_le hi hn with
  | 0, _ | 1, _ | 2, _ => rfl

theorem failsBy_extent (hd : d.dimension ≤ 3) :
    FailsBy (Explains d p) (Extent.read d p d.dimension) := by
  refine failsBy_readSizes.bind fun ⟨source, sizes⟩ hsizes => ?_
  simp only []
  split
  · next axis size hempty =>
      obtain ⟨i, hi, hsize, hlt, hlower⟩ := Extent.firstEmpty_eq_some hempty
      rw [Nat.zero_add] at hi
      subst hi
      have hbelow : axis < d.dimension := by
        have hlen := (List.getElem?_eq_some_iff.1 hsize).1
        exact Nat.lt_of_lt_of_le hlen (List.length_take_le _ _)
      rw [PerAxis.getElem?_toList_take sizes hd hbelow] at hsize
      refine .error (.nonPositiveSize hsizes hbelow (Option.some.inj hsize) hlt ?_)
      intro lower hl
      exact hlower lower hl _ (PerAxis.getElem?_toList_take sizes hd (by omega))
  · exact .ok _

theorem failsBy_geometry : FailsBy (Explains d p) (Geometry.read d p) := by
  refine (failsBy_getChoiceD rfl _).bind fun gridType _ => ?_
  refine (failsBy_getChoiceD rfl _).bind fun domain _ => ?_
  exact (failsBy_getAxes (by simp [Key.perAxis]) _ _).bind fun avoidOrigin _ => .ok _

theorem failsBy_coordinates (gridType : GridType) :
    FailsBy (Explains d p) (Coordinates.read d p gridType) := by
  cases gridType with
  | box => exact .ok _
  | byRange =>
      refine (failsBy_getAxes (by simp [Key.perAxis]) _ _).bind fun first _ => ?_
      exact (failsBy_getAxes (by simp [Key.perAxis]) _ _).bind fun last _ => .ok _
  | bySpacing => exact (failsBy_getAxes (by simp [Key.perAxis]) _ _).bind fun spacing _ => .ok _

theorem failsBy_getNeeded {method : TimeStepMethod} {key : String}
    (hmethod : TimeStepMethod.read d p = .ok method) (hneeds : method.needs? = some key)
    (h : (key, .double) ∈ Key.types) : FailsBy (Explains d p) (p.getNeeded method key) := by
  refine (failsBy_get? h).bind fun value hread => ?_
  cases value with
  | none => exact .error (.methodNeeds hmethod hneeds (Parameters.get?_eq_ok_none hread))
  | some v => exact .ok _

theorem failsBy_step {method : TimeStepMethod} (hmethod : TimeStepMethod.read d p = .ok method)
    (h : Hierarchy) : FailsBy (Explains d p) (method.step d p h) := by
  refine (failsBy_getD (by simp [Key.types, Key.readAs]) _).bind fun stepFactor _ => ?_
  refine (failsBy_getD (by simp [Key.types, Key.readAs]) _).bind fun courantFactor _ => ?_
  cases method with
  | given => exact failsBy_getNeeded hmethod rfl (by simp [Key.types, Key.readAs])
  | courantStatic => exact .ok _
  | courantSpeed =>
      exact (failsBy_getNeeded hmethod rfl (by simp [Key.types, Key.readAs])).bind fun speed _ => .ok _
  | courantTime => exact (failsBy_getD (by simp [Key.types, Key.readAs]) _).bind fun time _ => .ok _

/-! ## The whole -/

theorem failsBy_resolveGrid : FailsBy (Explains d p) (resolveGrid d p) := by
  have hseed : FailsBy (Explains d p) (Hierarchy.seed d) := by
    rw [Hierarchy.seed]
    split
    · exact .ok _
    · next hd => exact .error (.unsupportedDimension hd)
  refine hseed.bind fun h hh => ?_
  obtain ⟨⟨-, hle⟩, rfl⟩ := Hierarchy.seed_eq_ok hh
  refine (failsBy_get? (by simp [Key.types, Key.readAs])).bind fun last _ => ?_
  refine (failsBy_extent hle).bind fun extent _ => ?_
  refine failsBy_geometry.bind fun geometry _ => ?_
  refine (failsBy_coordinates _).bind fun coordinates _ => ?_
  refine FailsBy.bind (failsBy_getChoiceD rfl _) fun method hmethod => ?_
  exact (failsBy_step hmethod _).bind fun deltaTime _ => .ok _

end

theorem except_map_eq_error_iff {α β : Type} {x : Except Error α} {f : α → β} {e : Error} :
    x.map f = .error e ↔ x = .error e := by
  cases x with
  | error e' => simp [Except.map]
  | ok a => simp [Except.map]

theorem failsBy_resolve (d : Defaults) (p : Parameters) :
    FailsBy (Explains d p.normalize) (resolve d p) := by
  intro e he
  rw [← except_map_eq_error_iff (f := Resolution.grid), map_grid_resolve] at he
  exact failsBy_resolveGrid e he

theorem resolve_unsupportedDimension_iff (d : Defaults) (p : Parameters) :
    (∃ n, resolve d p = .error (.unsupportedDimension n)) ↔
      ¬ (1 ≤ d.dimension ∧ d.dimension ≤ 3) := by
  constructor
  · rintro ⟨n, hn⟩
    cases failsBy_resolve d p _ hn with
    | unsupportedDimension hd => exact hd
  · intro hd
    have hseed : Hierarchy.seed d = .error (.unsupportedDimension d.dimension) := if_neg hd
    refine ⟨d.dimension, ?_⟩
    rw [resolve]
    simp only [hseed]
    rfl

namespace Parameters

theorem readable_iff_exists_ofSource {source : String} :
    Readable source ↔ ∃ p, ofSource source = .ok p := by
  have hlines : Readable source ↔
      ∀ line ∈ (Text.lines source.toList).map String.ofList, Line.ofString? line ≠ none := by
    simp only [Readable, List.forall_mem_map, Line.ofString?, String.toList_ofList]
  rw [hlines]
  constructor
  · intro h
    exact exists_addLines_eq_ok h empty 1
  · rintro ⟨p, hp⟩
    exact (readFrom_of_ofLines hp).wellFormed

theorem exists_malformedLine_of_ofSource_error {source : String} {e : Error}
    (h : ofSource source = .error e) : ∃ number line, e = .malformedLine number line := by
  obtain ⟨before, line, -, -, -, -, he⟩ := ofLines_eq_error_iff.1 h
  exact ⟨before.length + 1, line, he⟩

end Parameters

open Parameters

/-- A text does not resolve for a malformed line if it has one, whatever else is wrong. Otherwise it
does not resolve for the dimension if that is not supported, and every error is true of what the text
sets. No error is about a parameter that had to be looked up first. -/
theorem resolveSource_errors_explained (d : Defaults) (source : String) :
    ((∃ number line, resolveSource d source = .error (.malformedLine number line)) ↔
      ¬ Readable source) ∧
    (∀ key, resolveSource d source ≠ .error (.notSet key)) ∧
    (Readable source → ∃ p, ofSource source = .ok p ∧
      ((∃ n, resolveSource d source = .error (.unsupportedDimension n)) ↔
        ¬ (1 ≤ d.dimension ∧ d.dimension ≤ 3)) ∧
      ∀ e, resolveSource d source = .error e → Explains d p.normalize e) := by
  rw [resolveSource_eq, readable_iff_exists_ofSource]
  cases hsource : ofSource source with
  | error e =>
      obtain ⟨number, line, rfl⟩ := exists_malformedLine_of_ofSource_error hsource
      refine ⟨iff_of_true ⟨number, line, rfl⟩ ?_, fun key h => ?_, ?_⟩
      · rintro ⟨p, hp⟩
        cases hp
      · cases h
      · rintro ⟨p, hp⟩
        cases hp
  | ok p =>
      have hexplained : ∀ e, resolve d p = .error e → Explains d p.normalize e :=
        failsBy_resolve d p
      refine ⟨iff_of_false ?_ (not_not_intro ⟨p, rfl⟩), fun key h => ?_, fun _ => ?_⟩
      · rintro ⟨number, line, h⟩
        cases hexplained _ h
      · cases hexplained _ h
      · exact ⟨p, rfl, resolve_unsupportedDimension_iff d p, hexplained⟩

/-- A last iteration that does not read is reported, unless there are four axes as well. -/
theorem resolveSource_errors_explained_order :
    Readable "cactus::cctk_itlast=ten" ∧
      (∃ n, resolveSource { Defaults.standard with dimension := 4 } "cactus::cctk_itlast=ten" =
        .error (.unsupportedDimension n)) ∧
      ∃ p, ofSource "cactus::cctk_itlast=ten" = .ok p ∧
        resolveSource .standard "cactus::cctk_itlast=ten" = .error (.unreadableValue "ten" .nat32) ∧
        Explains .standard p.normalize (.unreadableValue "ten" .nat32) := by
  have hread : Readable "cactus::cctk_itlast=ten" := by
    unfold Readable
    decide +kernel
  have herror :
      resolveSource .standard "cactus::cctk_itlast=ten" = .error (.unreadableValue "ten" .nat32) :=
    except_map_eq_error_iff (f := fun _ => ()).1 (by decide +kernel)
  obtain ⟨-, -, hexplains⟩ := resolveSource_errors_explained .standard "cactus::cctk_itlast=ten"
  obtain ⟨-, -, hspace⟩ := resolveSource_errors_explained { Defaults.standard with dimension := 4 }
    "cactus::cctk_itlast=ten"
  obtain ⟨p, hp, -, hall⟩ := hexplains hread
  obtain ⟨-, -, hdimension, -⟩ := hspace hread
  exact ⟨hread, hdimension.2 (by decide), p, hp, herror, hall _ herror⟩

end GridSetup
