import GridSetup.Proofs.Resolution.Placement

/-!
# Where a time step comes from

A time step is a formula in two or three numbers, and which one it is depends on the
method. `StepRule.Gives` has the four formulas, one for each method, over what keys
and defaults give and over the least spacing. The least spacing is taken over the
axes that the dimension counts, in their order and starting from infinity, and not
over a list that happens to be there.

What can go wrong is again a list of demands: those of the word for the method, of
the two factors, and of the method itself. A step that has to be given and a wave
speed are asked for twice, since they must read and must be there. No default stands
in for either of them.
-/

namespace GridSetup

open Parameter

/-- The hierarchy with the time step that parameters give. -/
def Hierarchy.timed (d : Defaults) (p : Parameters) (h : Hierarchy) : Except Error Hierarchy := do
  let deltaTime ← timeStep d p h
  return { h with deltaTime }

/-- The least spacing of the axes below the dimension, in their order. -/
def Hierarchy.leastBelow (h : Hierarchy) : Float :=
  (List.range h.dimension).foldl (fun least axis => lesser least (h.deltaSpace.getD axis 0))
    (1.0 / 0.0)

def TimeStepMethod.demands : TimeStepMethod → List Demand
  | .given => [.readable Key.timeStep .double, .present .given Key.timeStep]
  | .courantStatic => []
  | .courantSpeed => [.readable Key.waveSpeed .double, .present .courantSpeed Key.waveSpeed]
  | .courantTime => [.readable Key.crossingTime .double]

/-! ## The reference -/

namespace StepRule

section

variable (d : Defaults) (p : Parameters)

def method : TimeStepMethod :=
  (p.chosen? Key.timeStepMethod).getD d.method

def stepFactor : Float :=
  (p.given? .double Key.stepFactor).getD d.stepFactor

def courantFactor : Float :=
  (p.given? .double Key.courantFactor).getD d.courantFactor

def crossingTime : Float :=
  (p.given? .double Key.crossingTime).getD d.crossingTime

/-- What a method gives for the time step of a hierarchy. -/
inductive Gives (h : Hierarchy) : TimeStepMethod → Float → Prop where
  | given {step : Float} : p.given? .double Key.timeStep = some step → Gives h .given step
  | courantStatic : Gives h .courantStatic (stepFactor d p * h.leastBelow)
  | courantSpeed {speed : Float} : p.given? .double Key.waveSpeed = some speed →
      Gives h .courantSpeed (courantFactor d p * h.leastBelow / speed / h.dimension.toFloat.sqrt)
  | courantTime :
      Gives h .courantTime (courantFactor d p * crossingTime d p / h.dimension.toFloat.sqrt)

/-- The demands of a time step, in their order. -/
def demands : List Demand :=
  ChoiceKind.timeStepMethod.demands ++ ([.readable Key.stepFactor .double,
    .readable Key.courantFactor .double] ++ (method d p).demands)

end

end StepRule

/-! ## The least spacing -/

theorem Hierarchy.WellFormed.minSpacing_eq {h : Hierarchy} (hwf : h.WellFormed) :
    h.minSpacing = h.leastBelow := by
  have hlength : h.deltaSpace.length = h.dimension := hwf.length_reals .deltaSpace
  have hentries : (List.range h.dimension).map (h.deltaSpace.getD · 0) = h.deltaSpace := by
    apply List.ext_getElem?
    intro axis
    rw [List.getElem?_map, ← hlength]
    by_cases haxis : axis < h.deltaSpace.length
    · rw [List.getElem?_range haxis, Option.map_some, List.getD_eq_getElem?_getD,
        List.getElem?_eq_getElem haxis]
      rfl
    · rw [List.getElem?_eq_none (by rw [List.length_range]; omega),
        List.getElem?_eq_none (by omega)]
      rfl
  calc h.minSpacing
      = ((List.range h.dimension).map (h.deltaSpace.getD · 0)).foldl lesser (1.0 / 0.0) := by
        rw [hentries, minSpacing]
    _ = h.leastBelow := List.foldl_map

/-! ## What is read -/

section

variable {p : Parameters} {method : TimeStepMethod} {key : String}

/-- What must read and must be there gives a value. -/
theorem exists_given_of_allMet {t : ValueType}
    (h : AllMet p ([.readable key t] ++ [.present method key])) :
    ∃ v, p.given? t key = some v := by
  obtain ⟨hreadable, h⟩ := allMet_cons.1 h
  obtain ⟨hpresent, -⟩ := allMet_cons.1 h
  cases hvalue : p.value? key with
  | none => exact absurd (.absent hvalue) (hpresent _)
  | some value =>
      cases hgiven : p.given? t key with
      | none => exact absurd (.unreadable hvalue hgiven) (hreadable _)
      | some v => exact ⟨v, rfl⟩

theorem answers_getNeeded (p : Parameters) (method : TimeStepMethod) (key : String) :
    Answers p ([.readable key .double] ++ [.present method key]) (p.getNeeded method key)
      ((p.given? .double key).getD 0) where
  broken e h := by
    rw [Parameters.getNeeded]
    rcases firstBroken_append.1 h with hunread | ⟨hread, habsent⟩
    · rw [(answers_get? p .double key).broken e hunread]
      rfl
    · rw [(answers_get? p .double key).met hread]
      cases habsent with
      | later _ h => cases h
      | here habsent =>
          cases habsent with
          | absent hvalue =>
              rw [Parameters.given?, hvalue]
              rfl
  met h := by
    obtain ⟨v, hv⟩ := exists_given_of_allMet h
    rw [Parameters.getNeeded, (answers_get? p .double key).met (allMet_append.1 h).1, hv]
    rfl

end

namespace StepRule

section

variable (d : Defaults) (p : Parameters) {h : Hierarchy}

/-- The time step by a method, with zero where a value must be given and is not. -/
def step (h : Hierarchy) : TimeStepMethod → Float
  | .given => (p.given? .double Key.timeStep).getD 0
  | .courantStatic => stepFactor d p * h.leastBelow
  | .courantSpeed =>
      courantFactor d p * h.leastBelow / (p.given? .double Key.waveSpeed).getD 0 /
        h.dimension.toFloat.sqrt
  | .courantTime => courantFactor d p * crossingTime d p / h.dimension.toFloat.sqrt

theorem gives_iff {method : TimeStepMethod} (hmet : AllMet p method.demands) {deltaTime : Float} :
    Gives d p h method deltaTime ↔ deltaTime = step d p h method := by
  cases method with
  | given =>
      obtain ⟨v, hv⟩ := exists_given_of_allMet hmet
      rw [step, hv]
      constructor
      · rintro ⟨hstep⟩
        exact Option.some.inj (hstep.symm.trans hv)
      · rintro rfl
        exact .given hv
  | courantStatic =>
      constructor
      · rintro ⟨⟩
        rfl
      · rintro rfl
        exact .courantStatic
  | courantSpeed =>
      obtain ⟨v, hv⟩ := exists_given_of_allMet hmet
      rw [step, hv]
      constructor
      · rintro ⟨⟩
        next hspeed => rw [Option.some.inj (hspeed.symm.trans hv), Option.getD_some]
      · rintro rfl
        exact .courantSpeed hv
  | courantTime =>
      constructor
      · rintro ⟨⟩
        rfl
      · rintro rfl
        exact .courantTime

theorem answers_step (hwf : h.WellFormed) (method : TimeStepMethod) :
    Answers p ([.readable Key.stepFactor .double, .readable Key.courantFactor .double] ++
      method.demands) (method.step d p h) (step d p h method) := by
  refine (answers_getD p .double Key.stepFactor d.stepFactor).bind ?_
  refine (answers_getD p .double Key.courantFactor d.courantFactor).bind ?_
  simp only [hwf.minSpacing_eq]
  cases method with
  | given => exact answers_getNeeded p .given Key.timeStep
  | courantStatic => exact .ok p _
  | courantSpeed => exact (answers_getNeeded p .courantSpeed Key.waveSpeed).map
  | courantTime => exact (answers_getD p .double Key.crossingTime d.crossingTime).map

theorem answers_timed (hwf : h.WellFormed) :
    Answers p (demands d p) (h.timed d p) { h with deltaTime := step d p h (method d p) } :=
  ((answers_getChoiceD rfl p d.method).bind (answers_step d p hwf (method d p))).map
    (f := fun deltaTime => { h with deltaTime })

end

end StepRule

/-! ## The whole -/

/-- A resolution is the seed, the last iteration, and then three parts that each change the
hierarchy before them. -/
theorem resolve_eq_parts (d : Defaults) (p : Parameters) : resolve d p = (do
    let start ← Hierarchy.seed d
    let lastIteration ← readLastIteration p.normalize
    let extent ← Extent.read d p.normalize start.dimension
    let shaped ← (start.withExtent extent).shape d p.normalize
    let hierarchy ← shaped.timed d p.normalize
    return ⟨hierarchy, lastIteration, p.normalize⟩) := by
  simp only [resolve, Hierarchy.shape, Hierarchy.timed, bind_assoc, pure_bind]

/-- The time step of a hierarchy is the one its method gives, and nothing but the time step
changes. It fails if and only if a demand is not met, with the error of the first that is not. It is
the last part of a resolution, after the hierarchy has its shape. -/
theorem time_step_by_reference (d : Defaults) (p : Parameters) {h : Hierarchy}
    (hwf : h.WellFormed) :
    (resolve d p = do
      let start ← Hierarchy.seed d
      let lastIteration ← readLastIteration p.normalize
      let extent ← Extent.read d p.normalize start.dimension
      let shaped ← (start.withExtent extent).shape d p.normalize
      let hierarchy ← shaped.timed d p.normalize
      return ⟨hierarchy, lastIteration, p.normalize⟩) ∧
    (∀ h', h.timed d p = .ok h' ↔ AllMet p (StepRule.demands d p) ∧
      ∃ deltaTime, StepRule.Gives d p h (StepRule.method d p) deltaTime ∧
        h' = { h with deltaTime }) ∧
    (∀ e, h.timed d p = .error e ↔ FirstBroken p (StepRule.demands d p) e) ∧
    ((∃ e, h.timed d p = .error e) ↔
      ∃ demand ∈ StepRule.demands d p, ∃ e, demand.Broken p e) := by
  have hanswers := StepRule.answers_timed d p hwf
  refine ⟨resolve_eq_parts d p, fun h' => ?_, fun e => hanswers.error_iff, ?_⟩
  · rw [hanswers.ok_iff]
    refine and_congr_right fun hmet => ?_
    have hgives (deltaTime : Float) : StepRule.Gives d p h (StepRule.method d p) deltaTime ↔
        deltaTime = StepRule.step d p h (StepRule.method d p) :=
      StepRule.gives_iff d p (allMet_append.1 (allMet_append.1 hmet).2).2
    simp only [hgives, exists_eq_left]
  · simp only [hanswers.error_iff, exists_firstBroken_iff]

/-- The Courant condition on a plane, with a speed and without one. -/
theorem time_step_by_reference_speed :
    (Hierarchy.seeded 2).WellFormed ∧
      (∃ deltaTime, StepRule.Gives .standard
          ((Parameters.normalize .empty).insertAll [("time::timestep_method", "courant_speed"),
            ("time::courant_wave_speed", "2.0")]) (.seeded 2) .courantSpeed deltaTime ∧
        (Hierarchy.seeded 2).timed .standard
            ((Parameters.normalize .empty).insertAll [("time::timestep_method", "courant_speed"),
              ("time::courant_wave_speed", "2.0")]) =
          .ok { Hierarchy.seeded 2 with deltaTime }) ∧
      FirstBroken ((Parameters.normalize .empty).insertAll
          [("time::timestep_method", "courant_speed")])
        (StepRule.demands .standard ((Parameters.normalize .empty).insertAll
          [("time::timestep_method", "courant_speed")]))
        (.methodNeeds .courantSpeed Key.waveSpeed) := by
  have hwf : (Hierarchy.seeded 2).WellFormed := Checked.wellFormed_seeded (by decide)
  have hmethod : StepRule.method .standard
      ((Parameters.normalize .empty).insertAll [("time::timestep_method", "courant_speed"),
        ("time::courant_wave_speed", "2.0")]) = .courantSpeed := by
    simp (disch := decide) only [StepRule.method, Parameters.chosen?, Parameters.given?,
      Parameters.insertAll, List.foldl_cons, List.foldl_nil, value?_insert]
    decide +kernel
  have hok : ((Hierarchy.seeded 2).timed .standard
      ((Parameters.normalize .empty).insertAll [("time::timestep_method", "courant_speed"),
        ("time::courant_wave_speed", "2.0")])).isOk = true := by
    simp (disch := decide) only [Hierarchy.timed, timeStep, TimeStepMethod.read,
      Parameters.getChoiceD, TimeStepMethod.step, Parameters.getNeeded, Parameters.getD,
      Parameters.insertAll, List.foldl_cons, List.foldl_nil, get?_insert]
    decide +kernel
  have herror : (Hierarchy.seeded 2).timed .standard ((Parameters.normalize .empty).insertAll
      [("time::timestep_method", "courant_speed")]) =
      .error (.methodNeeds .courantSpeed Key.waveSpeed) := by
    simp (disch := decide) only [Hierarchy.timed, timeStep, TimeStepMethod.read,
      Parameters.getChoiceD, TimeStepMethod.step, Parameters.getNeeded, Parameters.getD,
      Parameters.insertAll, List.foldl_cons, List.foldl_nil, get?_insert]
    rfl
  obtain ⟨h', hh'⟩ := exists_eq_ok hok
  obtain ⟨-, htimed, -, -⟩ := time_step_by_reference .standard ((Parameters.normalize .empty).insertAll
    [("time::timestep_method", "courant_speed"), ("time::courant_wave_speed", "2.0")]) hwf
  obtain ⟨-, deltaTime, hgives, rfl⟩ := (htimed h').1 hh'
  rw [hmethod] at hgives
  obtain ⟨-, -, hfails, -⟩ := time_step_by_reference .standard
    ((Parameters.normalize .empty).insertAll [("time::timestep_method", "courant_speed")]) hwf
  exact ⟨hwf, ⟨deltaTime, hgives, hh'⟩, (hfails _).1 herror⟩

end GridSetup
