import GridSetup.Proofs.Resolution.Errors

/-!
# What a part asks of the parameters, in its order

A part of a resolution looks keys up one after the other and makes something of
what they give. Each look-up is a demand: that a value, if there is one, reads as
a type, that a word, if there is one, names a member of a choice, or that a key a
method cannot do without is set. A part fails if a demand is not met, and with
two of them not met it is the first that is reported.

`Answers` says all of this about a part at once: the demands in their order, and
the value that comes of it if they are met. It passes from the parts of a sequence
to the sequence (`Answers.bind`), the demands one after the other. What a part
does is then known from two things that can be read off the page, a list of
demands and a value that speaks of keys and defaults and not of steps.
-/

namespace GridSetup

open Parameter Parameters

/-! ## Values under keys -/

namespace Parameters

/-- The value of a type that a key gives, if it has a value that reads as one. -/
def given? (p : Parameters) (t : ValueType) (key : String) : Option t.Carrier :=
  (p.value? key).bind fun value => (Text.firstWord value.toList).bind t.readToken

/-- The member of a choice that a key names, if it names one. -/
def chosen? {α : Type} [Choice α] (p : Parameters) (key : String) : Option α :=
  (p.given? .word key).bind Choice.find?

/-- The value that a group of keys gives an axis: the uniform one if it is accepted, else that of
the axis, else a default. -/
def givenOn (p : Parameters) (t : ValueType) (ks : Key.AxisKeys) (default : PerAxis t.Carrier)
    (accept : t.Carrier → Bool) (axis : Nat) : t.Carrier :=
  (((p.given? t ks.uniform).filter accept).or (p.given? t (ks.axes.onAxis axis))).getD
    (default.onAxis axis)

def givenAxes (p : Parameters) (t : ValueType) (ks : Key.AxisKeys) (default : PerAxis t.Carrier)
    (accept : t.Carrier → Bool) : PerAxis t.Carrier :=
  ⟨p.givenOn t ks default accept 0, p.givenOn t ks default accept 1,
    p.givenOn t ks default accept 2⟩

theorem onAxis_givenAxes (p : Parameters) (t : ValueType) (ks : Key.AxisKeys)
    (default : PerAxis t.Carrier) (accept : t.Carrier → Bool) (axis : Nat) :
    (p.givenAxes t ks default accept).onAxis axis = p.givenOn t ks default accept axis := by
  match axis with
  | 0 | 1 | _ + 2 => rfl

end Parameters

/-! ## Demands -/

/-- What a look-up asks of the parameters. -/
inductive Demand where
  /-- A value under the key, if there is one, reads as the type. -/
  | readable (key : String) (t : ValueType)
  /-- A word for the choice, if there is one, is known. -/
  | known (kind : ChoiceKind)
  /-- The method needs the key to be set. -/
  | present (method : TimeStepMethod) (key : String)

def Key.AxisKeys.demands (ks : AxisKeys) (t : ValueType) : List Demand :=
  ks.toList.map fun key => .readable key t

def ChoiceKind.demands (kind : ChoiceKind) : List Demand :=
  [.readable kind.key .word, .known kind]

/-- A demand is not met, and this is the error. -/
inductive Demand.Broken (p : Parameters) : Demand → Error → Prop where
  | unreadable {key value : String} {t : ValueType} : p.value? key = some value →
      p.given? t key = none → Broken p (.readable key t) (.unreadableValue value t)
  | unknown {kind : ChoiceKind} {word : String} : p.given? .word kind.key = some word →
      (∀ known ∈ kind.words, Text.asciiLower word.toList ≠ Text.asciiLower known.toList) →
      Broken p (.known kind) (.unknownWord kind word)
  | absent {method : TimeStepMethod} {key : String} : p.value? key = none →
      Broken p (.present method key) (.methodNeeds method key)

/-- The error of the first of some demands that is not met. -/
inductive FirstBroken (p : Parameters) : List Demand → Error → Prop where
  | here {demand : Demand} {rest : List Demand} {e : Error} : demand.Broken p e →
      FirstBroken p (demand :: rest) e
  | later {demand : Demand} {rest : List Demand} {e : Error} : (∀ e, ¬ demand.Broken p e) →
      FirstBroken p rest e → FirstBroken p (demand :: rest) e

def AllMet (p : Parameters) (demands : List Demand) : Prop :=
  ∀ demand ∈ demands, ∀ e, ¬ demand.Broken p e

section

variable {p : Parameters} {demand : Demand} {demands rest : List Demand} {e : Error}

theorem AllMet.nil (p : Parameters) : AllMet p [] := by
  intro demand h
  cases h

theorem allMet_cons : AllMet p (demand :: rest) ↔ (∀ e, ¬ demand.Broken p e) ∧ AllMet p rest :=
  List.forall_mem_cons

theorem allMet_append : AllMet p (demands ++ rest) ↔ AllMet p demands ∧ AllMet p rest :=
  List.forall_mem_append

theorem firstBroken_append : FirstBroken p (demands ++ rest) e ↔
    FirstBroken p demands e ∨ AllMet p demands ∧ FirstBroken p rest e := by
  induction demands with
  | nil =>
      constructor
      · intro h
        exact .inr ⟨.nil p, h⟩
      · rintro (h | ⟨-, h⟩)
        · cases h
        · exact h
  | cons demand demands ih =>
      constructor
      · rintro (hbroken | ⟨hmet, h⟩)
        · exact .inl (.here hbroken)
        · rcases ih.1 h with hfirst | ⟨hall, hrest⟩
          · exact .inl (.later hmet hfirst)
          · exact .inr ⟨allMet_cons.2 ⟨hmet, hall⟩, hrest⟩
      · rintro ((hbroken | ⟨hmet, hfirst⟩) | ⟨hall, hrest⟩)
        · exact .here hbroken
        · exact .later hmet (ih.2 (.inl hfirst))
        · obtain ⟨hmet, hall⟩ := allMet_cons.1 hall
          exact .later hmet (ih.2 (.inr ⟨hall, hrest⟩))

theorem allMet_or_firstBroken (p : Parameters) (demands : List Demand) :
    AllMet p demands ∨ ∃ e, FirstBroken p demands e := by
  induction demands with
  | nil => exact .inl (.nil p)
  | cons demand rest ih =>
      by_cases hbroken : ∃ e, demand.Broken p e
      · obtain ⟨e, he⟩ := hbroken
        exact .inr ⟨e, .here he⟩
      · rw [not_exists] at hbroken
        rcases ih with hrest | ⟨e, he⟩
        · exact .inl (allMet_cons.2 ⟨hbroken, hrest⟩)
        · exact .inr ⟨e, .later hbroken he⟩

theorem FirstBroken.not_allMet (h : FirstBroken p demands e) : ¬ AllMet p demands := by
  induction h with
  | here hbroken => exact fun hall => (allMet_cons.1 hall).1 _ hbroken
  | later _ _ ih => exact fun hall => ih (allMet_cons.1 hall).2

theorem exists_firstBroken_iff :
    (∃ e, FirstBroken p demands e) ↔ ∃ demand ∈ demands, ∃ e, demand.Broken p e := by
  constructor
  · rintro ⟨e, he⟩
    have hsome := he.not_allMet
    simpa only [AllMet, not_forall, not_not, exists_prop] using hsome
  · rintro ⟨demand, hmem, e, hbroken⟩
    rcases allMet_or_firstBroken p demands with hall | hfirst
    · exact absurd hbroken (hall demand hmem e)
    · exact hfirst

end

/-! ## Parts -/

/-- A part fails with the first of its demands that is not met, and gives a value if all are. -/
structure Answers {α : Type} (p : Parameters) (demands : List Demand) (x : Except Error α) (a : α) :
    Prop where
  broken : ∀ e, FirstBroken p demands e → x = .error e
  met : AllMet p demands → x = .ok a

section

variable {α β : Type} {p : Parameters} {demands rest : List Demand} {x : Except Error α} {a : α}

theorem Answers.ok (p : Parameters) (a : α) : Answers p [] (.ok a) a where
  broken e h := by cases h
  met _ := rfl

theorem Answers.single {demand : Demand} (hbroken : ∀ e, demand.Broken p e → x = .error e)
    (hmet : (∀ e, ¬ demand.Broken p e) → x = .ok a) : Answers p [demand] x a where
  broken e h := by
    cases h with
    | here h => exact hbroken e h
    | later _ h => cases h
  met h := hmet (allMet_cons.1 h).1

theorem Answers.bind {f : α → Except Error β} {b : β} (hx : Answers p demands x a)
    (hf : Answers p rest (f a) b) : Answers p (demands ++ rest) (x >>= f) b where
  broken e h := by
    rcases firstBroken_append.1 h with hfirst | ⟨hall, hrest⟩
    · rw [hx.broken e hfirst]
      rfl
    · rw [hx.met hall]
      exact hf.broken e hrest
  met h := by
    obtain ⟨hall, hrest⟩ := allMet_append.1 h
    rw [hx.met hall]
    exact hf.met hrest

theorem Answers.map {f : α → β} (hx : Answers p demands x a) :
    Answers p demands (x.map f) (f a) where
  broken e h := by
    rw [hx.broken e h]
    rfl
  met h := by
    rw [hx.met h]
    rfl

theorem Answers.error_iff (hx : Answers p demands x a) {e : Error} :
    x = .error e ↔ FirstBroken p demands e := by
  constructor
  · intro he
    rcases allMet_or_firstBroken p demands with hall | ⟨e', he'⟩
    · cases (hx.met hall).symm.trans he
    · cases (hx.broken e' he').symm.trans he
      exact he'
  · exact hx.broken e

theorem Answers.ok_iff (hx : Answers p demands x a) {b : α} :
    x = .ok b ↔ AllMet p demands ∧ b = a := by
  constructor
  · intro hb
    rcases allMet_or_firstBroken p demands with hall | ⟨e, he⟩
    · cases (hx.met hall).symm.trans hb
      exact ⟨hall, rfl⟩
    · cases (hx.broken e he).symm.trans hb
  · rintro ⟨hall, rfl⟩
    exact hx.met hall

end

/-! ## Look-ups -/

section

variable {p : Parameters}

theorem answers_get? (p : Parameters) (t : ValueType) (key : String) :
    Answers p [.readable key t] (p.get? t key) (p.given? t key) := by
  refine .single (fun e h => ?_) fun h => ?_
  · cases h with
    | unreadable hvalue hgiven =>
        rw [given?, hvalue, Option.bind_some] at hgiven
        simp only [get?, hvalue, readValue, hgiven]
        rfl
  · cases hvalue : p.value? key with
    | none => simp only [get?, given?, hvalue, Option.bind_none]
    | some value =>
        cases hgiven : p.given? t key with
        | none => exact absurd (.unreadable hvalue hgiven) (h _)
        | some v =>
            rw [given?, hvalue, Option.bind_some] at hgiven
            simp only [get?, hvalue, readValue, hgiven]
            rfl

theorem answers_getD (p : Parameters) (t : ValueType) (key : String) (default : t.Carrier) :
    Answers p [.readable key t] (p.getD t key default) ((p.given? t key).getD default) :=
  (answers_get? p t key).map

theorem answers_getAxes (p : Parameters) (t : ValueType) (ks : Key.AxisKeys)
    (default : PerAxis t.Carrier) (accept : t.Carrier → Bool) :
    Answers p (ks.demands t) (p.getAxes t ks default accept) (p.givenAxes t ks default accept) := by
  refine (answers_getD p t ks.axes.x default.x).bind ?_
  refine (answers_getD p t ks.axes.y default.y).bind ?_
  refine (answers_getD p t ks.axes.z default.z).bind ?_
  refine (answers_get? p t ks.uniform).bind (show Answers p [] _ _ from ?_)
  simp only [givenAxes, givenOn]
  cases p.given? t ks.uniform with
  | none => exact .ok p _
  | some u =>
      simp only [Option.filter_some]
      split
      · exact .ok p _
      · exact .ok p _

theorem find?_eq_none_iff {α : Type} [Choice α]
    (hwords : (Choice.kind α).words = (Choice.all : List α).map Choice.word) {word : String} :
    (Choice.find? word : Option α) = none ↔
      ∀ known ∈ (Choice.kind α).words,
        Text.asciiLower word.toList ≠ Text.asciiLower known.toList := by
  rw [Choice.find?, List.find?_eq_none, hwords, List.forall_mem_map]
  refine forall₂_congr fun a ha => ?_
  have hlower : Text.asciiLower (Choice.word a).toList = (Choice.word a).toList := by
    have hword : Choice.word a ∈ (Choice.kind α).words := by
      rw [hwords]
      exact List.mem_map_of_mem ha
    exact ChoiceKind.asciiLower_words hword
  rw [hlower, beq_iff_eq, ne_comm, ne_eq]

theorem answers_getChoiceD {α : Type} [Choice α]
    (hwords : (Choice.kind α).words = (Choice.all : List α).map Choice.word) (p : Parameters)
    (default : α) :
    Answers p (Choice.kind α).demands (p.getChoiceD (Choice.kind α).key default)
      ((p.chosen? (Choice.kind α).key).getD default) := by
  refine (answers_get? p .word (Choice.kind α).key).bind (.single (fun e h => ?_) fun h => ?_)
  · cases h with
    | unknown hword hnone =>
        simp only [hword, choose, (find?_eq_none_iff hwords).2 hnone]
  · rw [chosen?]
    cases hword : p.given? .word (Choice.kind α).key with
    | none => rfl
    | some word =>
        simp only [choose, Option.bind_some]
        cases hfind : (Choice.find? word : Option α) with
        | none => exact absurd (.unknown hword ((find?_eq_none_iff hwords).1 hfind)) (h _)
        | some a => rfl

end

end GridSetup
