import GridSetup.Proofs.Resolution.Groups
import GridSetup.Proofs.Resolution.TimeStep

/-!
# Factors that a method has no use for

Each time step method is defined by one or two keys of its own (`ownKeys`), and no
other key of time has a say in the step that comes of it. That is not yet to say
that the others are not looked at. The two factors are read before the method is
considered, so a factor that is idle, being of no use to the method, still has to
read as a number if it is set.

This is the only thing that is asked of it. Two resolutions by one method that
agree on its own keys and on everything that is not a key of time end alike as long
as the idle factors of both read (`IdleRead`), whatever numbers they are and
whatever the remaining keys of time hold. Where an idle factor does not read, the
resolution fails, and even a time step that is given does not come through.
-/

namespace GridSetup

open Parameter Parameters

/-- The keys of time that a method is defined by. -/
def TimeStepMethod.ownKeys : TimeStepMethod → List String
  | .given => [Key.timeStep]
  | .courantStatic => [Key.stepFactor]
  | .courantSpeed => [Key.courantFactor, Key.waveSpeed]
  | .courantTime => [Key.courantFactor, Key.crossingTime]

/-- The factors that a method has no use for. -/
def TimeStepMethod.idleFactors (method : TimeStepMethod) : List String :=
  [Key.stepFactor, Key.courantFactor].filter fun key => key ∉ method.ownKeys

/-- The idle factors of a method that are set read as numbers. -/
def TimeStepMethod.IdleRead (method : TimeStepMethod) (p : Parameters) : Prop :=
  AllMet p (method.idleFactors.map fun key => .readable key .double)

theorem TimeStepMethod.idleRead_iff {method : TimeStepMethod} {p : Parameters} :
    method.IdleRead p ↔ ∀ key ∈ method.idleFactors, p.value? key ≠ none →
      p.given? .double key ≠ none := by
  rw [IdleRead, AllMet, List.forall_mem_map]
  refine forall₂_congr fun key _ => ?_
  constructor
  · intro h hset hnone
    obtain ⟨value, hvalue⟩ := Option.ne_none_iff_exists'.1 hset
    exact h _ (.unreadable hvalue hnone)
  · intro h e hbroken
    cases hbroken with
    | unreadable hvalue hnone => exact h (by rw [hvalue]; exact Option.some_ne_none _) hnone

/-! ## Two steps by one method -/

section

variable {p q : Parameters} {method : TimeStepMethod}

theorem getD_congr {key : String} {t : ValueType} (h : p.value? key = q.value? key)
    (default : t.Carrier) : q.getD t key default = p.getD t key default :=
  (readsOnly_getD t List.mem_cons_self default p q
    fun k hk => by rwa [List.mem_singleton.1 hk]).symm

theorem getNeeded_congr {key : String} (h : p.value? key = q.value? key)
    (method : TimeStepMethod) : q.getNeeded method key = p.getNeeded method key :=
  (readsOnly_getNeeded method List.mem_cons_self p q
    fun k hk => by rwa [List.mem_singleton.1 hk]).symm

theorem TimeStepMethod.IdleRead.exists_getD (h : method.IdleRead p) (key : String)
    (hkey : key ∈ method.idleFactors) (default : Float) :
    ∃ v, p.getD .double key default = .ok v := by
  have hmet : AllMet p [.readable key .double] := by
    intro demand hdemand
    rw [List.mem_singleton.1 hdemand]
    exact h _ (List.mem_map_of_mem hkey)
  exact ⟨_, (answers_getD p .double key default).met hmet⟩

/-- Idle factors that read do not matter, and no more do the keys that only another method reads. -/
theorem TimeStepMethod.step_eq_of_ownKeys (hown : AgreeOn method.ownKeys p q)
    (hp : method.IdleRead p) (hq : method.IdleRead q) (d : Defaults) (h : Hierarchy) :
    method.step d q h = method.step d p h := by
  rw [step, step]
  cases method with
  | given =>
      obtain ⟨v, hv⟩ := hp.exists_getD Key.stepFactor (by decide) d.stepFactor
      obtain ⟨w, hw⟩ := hp.exists_getD Key.courantFactor (by decide) d.courantFactor
      obtain ⟨v', hv'⟩ := hq.exists_getD Key.stepFactor (by decide) d.stepFactor
      obtain ⟨w', hw'⟩ := hq.exists_getD Key.courantFactor (by decide) d.courantFactor
      rw [hv, hw, hv', hw']
      exact getNeeded_congr (hown _ (by decide)) .given
  | courantStatic =>
      obtain ⟨w, hw⟩ := hp.exists_getD Key.courantFactor (by decide) d.courantFactor
      obtain ⟨w', hw'⟩ := hq.exists_getD Key.courantFactor (by decide) d.courantFactor
      rw [getD_congr (hown Key.stepFactor (by decide)), hw, hw']
      rfl
  | courantSpeed =>
      obtain ⟨v, hv⟩ := hp.exists_getD Key.stepFactor (by decide) d.stepFactor
      obtain ⟨v', hv'⟩ := hq.exists_getD Key.stepFactor (by decide) d.stepFactor
      rw [hv, hv', getD_congr (hown Key.courantFactor (by decide)),
        getNeeded_congr (hown Key.waveSpeed (by decide))]
      rfl
  | courantTime =>
      obtain ⟨v, hv⟩ := hp.exists_getD Key.stepFactor (by decide) d.stepFactor
      obtain ⟨v', hv'⟩ := hq.exists_getD Key.stepFactor (by decide) d.stepFactor
      rw [hv, hv', getD_congr (hown Key.courantFactor (by decide)),
        getD_congr (hown Key.crossingTime (by decide))]
      rfl

theorem TimeStepMethod.idleRead_of_step {d : Defaults} {h : Hierarchy} {deltaTime : Float}
    (hstep : method.step d p h = .ok deltaTime) : method.IdleRead p := by
  rw [step] at hstep
  obtain ⟨v, hv, hstep⟩ := except_bind_eq_ok.1 hstep
  obtain ⟨w, hw, -⟩ := except_bind_eq_ok.1 hstep
  have hfactors : AllMet p [.readable Key.stepFactor .double, .readable Key.courantFactor .double] :=
    allMet_append.2 ⟨((answers_getD p .double Key.stepFactor d.stepFactor).ok_iff.1 hv).1,
      ((answers_getD p .double Key.courantFactor d.courantFactor).ok_iff.1 hw).1⟩
  intro demand hdemand
  obtain ⟨key, hkey, rfl⟩ := List.mem_map.1 hdemand
  have hmem := List.mem_map_of_mem (f := fun key => Demand.readable key .double)
    (List.mem_filter.1 hkey).1
  exact hfactors _ hmem

end

/-! ## Two resolutions by one method -/

section

variable {d : Defaults} {p q : Parameters} {method : TimeStepMethod}

theorem sameGrid_of_ownKeys (hp : TimeStepMethod.read d p.normalize = .ok method)
    (hq : TimeStepMethod.read d q.normalize = .ok method)
    (houtside : AgreeOn (Key.outside "time") p.normalize q.normalize)
    (hown : AgreeOn method.ownKeys p.normalize q.normalize)
    (hidle : method.IdleRead p.normalize) (hidle' : method.IdleRead q.normalize) :
    SameGrid (resolve d p) (resolve d q) := by
  refine sameGrid_of_map_grid ?_
  rw [map_grid_resolve, map_grid_resolve]
  exact (resolveGrid_eq_of_step houtside hp hq
    (method.step_eq_of_ownKeys hown hidle hidle' d)).symm

theorem idleRead_of_resolve (hp : TimeStepMethod.read d p.normalize = .ok method) {r : Resolution}
    (hr : resolve d p = .ok r) : method.IdleRead p.normalize := by
  obtain ⟨h, last, extent, g, c, deltaTime, -, -, -, -, -, htime, -⟩ := resolve_eq_ok.1 hr
  rw [timeStep, hp] at htime
  exact TimeStepMethod.idleRead_of_step htime

theorem resolve_fails_of_idle (hp : TimeStepMethod.read d p.normalize = .ok method)
    (hidle : ¬ method.IdleRead p.normalize) : ∃ e, resolve d p = .error e := by
  cases hr : resolve d p with
  | error e => exact ⟨e, rfl⟩
  | ok r => exact absurd (idleRead_of_resolve hp hr) hidle

/-- Where all steps succeed the rest decides whether there is a grid. -/
theorem exists_resolve_of_timeStep {r : Resolution}
    (houtside : AgreeOn (Key.outside "time") p.normalize q.normalize) (hr : resolve d p = .ok r)
    (hstep : ∀ h, ∃ deltaTime, timeStep d q.normalize h = .ok deltaTime) :
    ∃ s, resolve d q = .ok s := by
  obtain ⟨hlast, hextent, hgeometry, hcoordinates⟩ := parts_eq_of_outside houtside d
  obtain ⟨h, last, extent, g, c, -, hseed, hl, he, hg, hc, -, -⟩ := resolve_eq_ok.1 hr
  obtain ⟨deltaTime, hdelta⟩ := hstep ((h.withExtent extent).withGeometry g c)
  exact ⟨_, resolve_eq_ok.2 ⟨h, last, extent, g, c, deltaTime, hseed, hlast.trans hl,
    (hextent _).trans he, hgeometry.trans hg, (hcoordinates _).trans hc, hdelta, rfl⟩⟩

theorem timeStep_given {step : Float} (hp : TimeStepMethod.read d p = .ok .given)
    (hidle : TimeStepMethod.given.IdleRead p) (hstep : p.given? .double Key.timeStep = some step)
    (h : Hierarchy) : timeStep d p h = .ok step := by
  have hread : AllMet p [.readable Key.timeStep .double] := by
    intro demand hdemand e hbroken
    rw [List.mem_singleton.1 hdemand] at hbroken
    cases hbroken with
    | unreadable _ hnone => cases hstep.symm.trans hnone
  obtain ⟨v, hv⟩ := hidle.exists_getD Key.stepFactor (by decide) d.stepFactor
  obtain ⟨w, hw⟩ := hidle.exists_getD Key.courantFactor (by decide) d.courantFactor
  rw [timeStep, hp, except_ok_bind, TimeStepMethod.step, hv, hw, except_ok_bind, except_ok_bind]
  show p.getNeeded .given Key.timeStep = _
  rw [getNeeded, (answers_get? p .double Key.timeStep).met hread, hstep]
  rfl

end

/-- Resolutions by one method that agree on its own keys, and on what is not a key of time, are the
same where the idle factors read, and a step that is given is the step of every grid. A resolution
with an idle factor that does not read fails. -/
theorem time_step_of_own_keys (d : Defaults) {p q : Parameters} {method : TimeStepMethod}
    (hp : TimeStepMethod.read d p.normalize = .ok method)
    (hq : TimeStepMethod.read d q.normalize = .ok method)
    (houtside : AgreeOn (Key.outside "time") p.normalize q.normalize)
    (hown : AgreeOn method.ownKeys p.normalize q.normalize) :
    (method.IdleRead p.normalize → method.IdleRead q.normalize →
      SameGrid (resolve d p) (resolve d q)) ∧
    (¬ method.IdleRead p.normalize → ∃ e, resolve d p = .error e) ∧
    (method = .given → method.IdleRead p.normalize →
      ∀ step, p.normalize.given? .double Key.timeStep = some step →
        ∀ h, timeStep d p.normalize h = .ok step) := by
  refine ⟨sameGrid_of_ownKeys hp hq houtside hown, resolve_fails_of_idle hp, ?_⟩
  rintro rfl hidle step hstep h
  exact timeStep_given hp hidle hstep h

/-! ## A given step beside a factor -/

def givenBeside (key value : String) : Parameters :=
  (Parameters.normalize .empty).insertAll
    [("time::timestep_method", "given"), ("time::timestep", "0.5"), (key, value)]

theorem normalize_givenBeside (key value : String) :
    (givenBeside key value).normalize = givenBeside key value :=
  normalize_of_normalized rfl

section

variable {key : String} (hkey : key ∈ Key.recognised)
include hkey

theorem value?_givenBeside {k : String} (hk : k ∈ Key.recognised) (value : String) :
    (givenBeside key value).value? k = if k = key then some (tidy value) else
      if k = Key.timeStep then some "0.5" else
        if k = Key.timeStepMethod then some "given" else none := by
  rw [givenBeside, insertAll, List.foldl_cons, List.foldl_cons, List.foldl_cons, List.foldl_nil,
    value?_insert hkey hk rfl, value?_insert (by decide) hk rfl, value?_insert (by decide) hk rfl]
  rfl

theorem read_givenBeside (hne : key ≠ Key.timeStepMethod) (value : String) :
    TimeStepMethod.read .standard (givenBeside key value).normalize = .ok .given := by
  have hword : (givenBeside key value).get? .word Key.timeStepMethod = .ok (some "given") := by
    rw [get?, value?_givenBeside hkey (by decide), if_neg hne.symm]
    rfl
  rw [normalize_givenBeside, TimeStepMethod.read, getChoiceD, hword]
  rfl

theorem given?_givenBeside (hne : key ≠ Key.timeStep) (value : String) :
    ∃ step, (givenBeside key value).normalize.given? .double Key.timeStep = some step := by
  rw [normalize_givenBeside, given?, value?_givenBeside hkey (by decide), if_neg hne.symm]
  exact Option.isSome_iff_exists.1 (by decide +kernel)

/-- Of the idle factors only one that is set can fail to read. -/
theorem idleRead_givenBeside (value : String) :
    TimeStepMethod.given.IdleRead (givenBeside key value).normalize ↔
      (key ∈ TimeStepMethod.given.idleFactors →
        ((Text.firstWord (tidy value).toList).bind ValueType.double.readToken).isSome) := by
  have hfactors : ∀ k ∈ TimeStepMethod.given.idleFactors,
      k ∈ Key.recognised ∧ k ≠ Key.timeStep ∧ k ≠ Key.timeStepMethod := by decide
  have hgiven : (givenBeside key value).given? .double key =
      (Text.firstWord (tidy value).toList).bind ValueType.double.readToken := by
    rw [given?, value?_givenBeside hkey hkey, if_pos rfl, Option.bind_some]
  rw [normalize_givenBeside, TimeStepMethod.idleRead_iff, ← hgiven, ← Option.ne_none_iff_isSome]
  constructor
  · intro h hidle
    refine h key hidle ?_
    rw [value?_givenBeside hkey hkey, if_pos rfl]
    exact Option.some_ne_none _
  · intro h k hk hset
    obtain ⟨hmem, htime, hmethod⟩ := hfactors k hk
    by_cases heq : k = key
    · subst heq
      exact h hk
    · rw [value?_givenBeside hkey hmem, if_neg heq, if_neg htime, if_neg hmethod] at hset
      exact absurd rfl hset

theorem agreeOn_givenBeside {keys : List String} (hkeys : keys ⊆ Key.recognised) {key' : String}
    (hkey' : key' ∈ Key.recognised) (h : key ∉ keys) (h' : key' ∉ keys) (value value' : String) :
    AgreeOn keys (givenBeside key value).normalize (givenBeside key' value').normalize := by
  intro k hk
  have hne : k ≠ key := by
    rintro rfl
    exact h hk
  have hne' : k ≠ key' := by
    rintro rfl
    exact h' hk
  rw [normalize_givenBeside, normalize_givenBeside, value?_givenBeside hkey (hkeys hk),
    value?_givenBeside hkey' (hkeys hk), if_neg hne, if_neg hne']

end

/-- With a given step, and no factor in its way, there is a grid as there is one of the defaults. -/
theorem exists_resolve_givenBeside {key value : String} (hkey : key ∈ Key.recognised)
    (hne : key ≠ Key.timeStep ∧ key ≠ Key.timeStepMethod) (hnot : key ∉ Key.outside "time")
    (hidle : TimeStepMethod.given.IdleRead (givenBeside key value).normalize) :
    ∃ r, resolve .standard (givenBeside key value) = .ok r := by
  obtain ⟨r, hr⟩ := exists_eq_ok (x := resolve .standard .empty) (by decide +kernel)
  have hempty : AgreeOn (Key.outside "time") (Parameters.normalize .empty)
      (givenBeside key value).normalize := by
    intro k hk
    have hmem := (List.mem_filter.1 hk).1
    have hkne : k ≠ key := by
      rintro rfl
      exact hnot hk
    have htime : k ≠ Key.timeStep ∧ k ≠ Key.timeStepMethod := by
      constructor
      · rintro rfl
        exact absurd hk (notMem_outside (by decide))
      · rintro rfl
        exact absurd hk (notMem_outside (by decide))
    rw [normalize_givenBeside, value?_givenBeside hkey hmem, if_neg hkne, if_neg htime.1,
      if_neg htime.2]
    rfl
  obtain ⟨step, hstep⟩ := given?_givenBeside hkey hne.1 value
  exact exists_resolve_of_timeStep hempty hr fun k =>
    ⟨step, timeStep_given (read_givenBeside hkey hne.2 value) hidle hstep k⟩

theorem idleRead_givenBeside_number :
    TimeStepMethod.given.IdleRead (givenBeside Key.stepFactor "0.25").normalize :=
  (idleRead_givenBeside (by decide) _).2 fun _ => by decide +kernel

theorem not_idleRead_givenBeside_word :
    ¬ TimeStepMethod.given.IdleRead (givenBeside Key.stepFactor "abc").normalize :=
  fun h => absurd ((idleRead_givenBeside (by decide) _).1 h (by decide)) (by decide +kernel)

/-- One factor is set and a wave speed that does not read, and both times the step is the given one.
Beside a factor that is no number there is no grid. -/
theorem time_step_of_own_keys_given :
    (TimeStepMethod.read .standard (givenBeside Key.stepFactor "0.25").normalize = .ok .given ∧
      TimeStepMethod.read .standard (givenBeside Key.waveSpeed "fast").normalize = .ok .given ∧
      AgreeOn (Key.outside "time") (givenBeside Key.stepFactor "0.25").normalize
        (givenBeside Key.waveSpeed "fast").normalize ∧
      AgreeOn TimeStepMethod.given.ownKeys (givenBeside Key.stepFactor "0.25").normalize
        (givenBeside Key.waveSpeed "fast").normalize) ∧
    SameGrid (resolve .standard (givenBeside Key.stepFactor "0.25"))
      (resolve .standard (givenBeside Key.waveSpeed "fast")) ∧
    (∃ step, ∀ h, timeStep .standard (givenBeside Key.stepFactor "0.25").normalize h = .ok step) ∧
    ∃ e, resolve .standard (givenBeside Key.stepFactor "abc") = .error e := by
  have hfactor (value : String) :
      TimeStepMethod.read .standard (givenBeside Key.stepFactor value).normalize = .ok .given :=
    read_givenBeside (by decide) (by decide) value
  have hspeed : TimeStepMethod.read .standard (givenBeside Key.waveSpeed "fast").normalize =
      .ok .given := read_givenBeside (by decide) (by decide) "fast"
  have houtside (value : String) : AgreeOn (Key.outside "time")
      (givenBeside Key.stepFactor value).normalize (givenBeside Key.waveSpeed "fast").normalize :=
    agreeOn_givenBeside (by decide) (List.filter_subset_self _) (by decide)
      (notMem_outside (by decide)) (notMem_outside (by decide)) value "fast"
  have hown (value : String) : AgreeOn TimeStepMethod.given.ownKeys
      (givenBeside Key.stepFactor value).normalize (givenBeside Key.waveSpeed "fast").normalize :=
    agreeOn_givenBeside (by decide) (by decide) (by decide) (by decide) (by decide) value "fast"
  obtain ⟨step, hstep⟩ : ∃ step,
      (givenBeside Key.stepFactor "0.25").normalize.given? .double Key.timeStep = some step :=
    given?_givenBeside (by decide) (by decide) "0.25"
  have hidle' : TimeStepMethod.given.IdleRead (givenBeside Key.waveSpeed "fast").normalize :=
    (idleRead_givenBeside (by decide) _).2 fun hmem => absurd hmem (by decide)
  obtain ⟨hsame, -, hgiven⟩ := time_step_of_own_keys .standard (hfactor "0.25") hspeed
    (houtside "0.25") (hown "0.25")
  obtain ⟨-, hfails, -⟩ := time_step_of_own_keys .standard (hfactor "abc") hspeed
    (houtside "abc") (hown "abc")
  exact ⟨⟨hfactor _, hspeed, houtside _, hown _⟩, hsame idleRead_givenBeside_number hidle',
    ⟨step, fun h => hgiven rfl idleRead_givenBeside_number step hstep h⟩,
    hfails not_idleRead_givenBeside_word⟩

/-- The keys of a method do not decide by themselves: a step is given in both of two runs that agree
on all keys but one factor, and only one of them has a grid. -/
theorem time_step_not_of_own_keys_alone :
    ¬ ∀ (d : Defaults) (p q : Parameters) (method : TimeStepMethod),
      TimeStepMethod.read d p.normalize = .ok method →
      TimeStepMethod.read d q.normalize = .ok method →
      (∀ key, ¬ "time::".toList <+: (foldKey key).toList →
        p.normalize.value? key = q.normalize.value? key) →
      AgreeOn method.ownKeys p.normalize q.normalize →
      SameGrid (resolve d p) (resolve d q) := by
  intro h
  have hread (value : String) :
      TimeStepMethod.read .standard (givenBeside Key.stepFactor value).normalize = .ok .given :=
    read_givenBeside (by decide) (by decide) value
  have hothers : ∀ key, ¬ "time::".toList <+: (foldKey key).toList →
      (givenBeside Key.stepFactor "abc").normalize.value? key =
        (givenBeside Key.stepFactor "0.25").normalize.value? key := by
    intro key hkey
    have hne : foldKey key ≠ foldKey Key.stepFactor := by
      intro heq
      rw [heq] at hkey
      exact hkey (by decide +kernel)
    rw [normalize_givenBeside, normalize_givenBeside]
    show (Parameters.insert _ _ _).value? key = (Parameters.insert _ _ _).value? key
    rw [value?, value?, Parameters.insert, Parameters.insert, Table.get?_insert, Table.get?_insert,
      if_neg hne, if_neg hne]
  have hown : AgreeOn TimeStepMethod.given.ownKeys (givenBeside Key.stepFactor "abc").normalize
      (givenBeside Key.stepFactor "0.25").normalize :=
    agreeOn_givenBeside (by decide) (by decide) (by decide) (by decide) (by decide) _ _
  have hsame := h .standard _ _ .given (hread "abc") (hread "0.25") hothers hown
  obtain ⟨e, he⟩ := resolve_fails_of_idle (hread "abc") not_idleRead_givenBeside_word
  obtain ⟨r, hr⟩ := exists_resolve_givenBeside (by decide) (by decide)
    (notMem_outside (by decide)) idleRead_givenBeside_number
  rw [he, hr] at hsame
  cases hsame

end GridSetup
