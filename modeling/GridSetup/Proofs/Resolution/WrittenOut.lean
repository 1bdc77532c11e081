import GridSetup.Proofs.Parameter.Number
import GridSetup.Proofs.Resolution.Errors
import GridSetup.Proofs.Resolution.Shape

/-!
# A default means what the key would mean

Nine of the defaults have a text: the three choices, the global sizes and the
switches to avoid the origin. Where a file is silent, the default is as good as
a line of the file that says the same, and with all of them written out the
defaults themselves no longer matter.

The argument is about one look-up at a time. Under a key of a default the
parameters have their own value or the text of the default, and either reads as
what the look-up gave before, with the default as a default. Under every other
key nothing has changed. Uniform keys and local sizes are among the others, so
they beat a default that is written out exactly where they beat a default that
is not.
-/

namespace GridSetup

open Decimal Parameter Parameters Text

/-! ## Writing out -/

/-- The keys of a setting with the texts of its values. -/
def Key.AxisKeys.texts {α : Type} (k : AxisKeys) (text : α → String) (v : PerAxis α) :
    List (String × String) :=
  [(k.axes.x, text v.x), (k.axes.y, text v.y), (k.axes.z, text v.z)]

def sizeText (n : Int32) : String :=
  String.ofList (writeInt n.toInt)

def flagText (b : Bool) : String :=
  if b then "yes" else "no"

/-- The defaults that have a text, under their keys. -/
def Defaults.texts (d : Defaults) : List (String × String) :=
  [(Key.gridType, d.gridType.word), (Key.domain, d.domain.word),
      (Key.timeStepMethod, d.method.word)]
    ++ Key.globalSize.texts sizeText d.globalSize ++ Key.avoidOrigin.texts flagText d.avoidOrigin

namespace Parameters

/-- Sets a parameter that is not set. -/
def insertMissing (p : Parameters) (key value : String) : Parameters :=
  if p.contains key then p else p.insert key value

/-- Sets the parameters that are not set, one after the other. -/
def insertAllMissing (p : Parameters) (pairs : List (String × String)) : Parameters :=
  pairs.foldl (fun p e => p.insertMissing e.1 e.2) p

/-- The parameters with the text of every default whose key is not set. -/
def writeOut (p : Parameters) (d : Defaults) : Parameters :=
  p.insertAllMissing d.texts

theorem normalize_insertMissing (p : Parameters) (key value : String) :
    (p.insertMissing key value).normalize = p.normalize.insertMissing key value := by
  rw [insertMissing, insertMissing, contains_normalize]
  split
  · rfl
  · exact normalize_insert p key value

theorem insertAllMissing_cons (p : Parameters) (e : String × String)
    (rest : List (String × String)) :
    p.insertAllMissing (e :: rest) = (p.insertMissing e.1 e.2).insertAllMissing rest := rfl

theorem normalize_insertAllMissing (p : Parameters) (pairs : List (String × String)) :
    (p.insertAllMissing pairs).normalize = p.normalize.insertAllMissing pairs := by
  induction pairs generalizing p with
  | nil => rfl
  | cons e rest ih =>
      rw [insertAllMissing_cons, ih, normalize_insertMissing, insertAllMissing_cons]

theorem normalized_insertMissing {p : Parameters} (hp : p.normalized = true) (key value : String) :
    (p.insertMissing key value).normalized = true := by
  rw [insertMissing]
  split
  · exact hp
  · exact hp

/-- A value that is there stays, and a missing one is tidied on its way in. -/
theorem value?_insertMissing {p : Parameters} (hp : p.normalized = true) (key value k : String) :
    (p.insertMissing key value).value? k =
      (p.value? k).or (if foldKey k = foldKey key then some (tidy value) else none) := by
  rw [insertMissing]
  split
  · next hset =>
      split
      · next heq =>
          obtain ⟨v, hv⟩ := Option.isSome_iff_exists.1 hset
          rw [← heq] at hv
          rw [value?, hv, Option.some_or]
      · rw [Option.or_none]
  · next hset =>
      rw [value?, value?, insert, Table.get?_insert, if_pos hp]
      split
      · next heq =>
          rw [heq, Option.not_isSome_iff_eq_none.1 hset, Option.none_or]
      · rw [Option.or_none]

theorem value?_insertAllMissing {p : Parameters} (hp : p.normalized = true)
    {pairs : List (String × String)} (hpairs : ∀ e ∈ pairs, foldKey e.1 = e.1) {k : String}
    (hk : foldKey k = k) :
    (p.insertAllMissing pairs).value? k = (p.value? k).or ((pairs.lookup k).map tidy) := by
  induction pairs generalizing p with
  | nil => exact (Option.or_none).symm
  | cons e rest ih =>
      obtain ⟨key, value⟩ := e
      have hkey : foldKey key = key := hpairs (key, value) List.mem_cons_self
      have hrest : ∀ e ∈ rest, foldKey e.1 = e.1 := fun e he => hpairs e (List.mem_cons_of_mem _ he)
      rw [insertAllMissing_cons, ih (normalized_insertMissing hp key value) hrest,
        value?_insertMissing hp, hk, hkey, Option.or_assoc, Table.lookup_entry]
      split
      · rw [Option.some_or, Option.map_some]
      · rw [Option.none_or]

end Parameters

/-! ## One look-up -/

section

variable {p q : Parameters} {t : ValueType} {key text : String} {a : t.Carrier}

theorem get?_of_text (h : q.value? key = (p.value? key).or (some (tidy text)))
    (htext : readValue t (tidy text) = .ok a) :
    q.get? t key = (p.get? t key).map fun v => some (v.getD a) := by
  rw [Parameters.get?, Parameters.get?, h]
  cases p.value? key with
  | none =>
      simp only [Option.none_or, htext]
      rfl
  | some value =>
      simp only [Option.some_or]
      cases readValue t value with
      | error e => rfl
      | ok v => rfl

/-- A default whose text is written out reads as itself, and a value that is there as before. -/
theorem getD_of_text (h : q.value? key = (p.value? key).or (some (tidy text)))
    (htext : readValue t (tidy text) = .ok a) (default : t.Carrier) :
    q.getD t key default = p.getD t key a := by
  rw [getD, getD, get?_of_text h htext]
  cases p.get? t key with
  | error e => rfl
  | ok v => rfl

end

theorem ChoiceKind.tidy_words : ∀ kind : ChoiceKind, ∀ word ∈ kind.words, tidy word = word := by
  intro kind
  cases kind <;> decide

theorem readValue_of_mem_words {kind : ChoiceKind} {word : String} (h : word ∈ kind.words) :
    readValue .word (tidy word) = .ok word := by
  have hread : ∀ kind : ChoiceKind, ∀ word ∈ kind.words, readValue .word word = .ok word := by
    intro kind
    cases kind <;> decide
  rw [kind.tidy_words word h, hread kind word h]

theorem getChoiceD_of_text {α : Type} [Choice α] {p q : Parameters} {key : String} {a : α}
    (h : q.value? key = (p.value? key).or (some (tidy (Choice.word a))))
    (hword : Choice.word a ∈ (Choice.kind α).words)
    (hfind : Choice.find? (Choice.word a) = some a) (default : α) :
    q.getChoiceD key default = p.getChoiceD key a := by
  have hchoose : choose (Choice.word a) = .ok a := by rw [choose, hfind]
  rw [getChoiceD, getChoiceD, get?_of_text h (readValue_of_mem_words hword)]
  cases p.get? .word key with
  | error e => rfl
  | ok v =>
      cases v with
      | none => exact hchoose
      | some w => rfl

/-! ## The keys of the defaults -/

def Key.writable : List String :=
  [gridType, domain, timeStepMethod] ++ globalSize.axes.toList ++ avoidOrigin.axes.toList

theorem Defaults.mem_writable_of_mem_texts (d : Defaults) {e : String × String} (h : e ∈ d.texts) :
    e.1 ∈ Key.writable := by
  have hkeys : d.texts.map Prod.fst = Key.writable := rfl
  rw [← hkeys]
  exact List.mem_map_of_mem h

theorem Defaults.lookup_texts (d : Defaults) {e : String × String} (h : e ∈ d.texts) :
    d.texts.lookup e.1 = some e.2 := by
  simp only [texts, Key.AxisKeys.texts, List.cons_append, List.nil_append, List.mem_cons,
    List.not_mem_nil, or_false] at h
  rcases h with rfl | rfl | rfl | rfl | rfl | rfl | rfl | rfl | rfl <;> rfl

theorem Key.writable_subset : Key.writable ⊆ Key.recognised := by
  decide

section

variable {d : Defaults} {p : Parameters}

theorem value?_writeOut (hp : p.normalized = true) {key : String} (h : key ∈ Key.recognised) :
    (p.writeOut d).value? key = (p.value? key).or ((d.texts.lookup key).map tidy) := by
  have hkeys : ∀ e ∈ d.texts, foldKey e.1 = e.1 := by
    intro e he
    exact foldKey_of_mem_recognised (Key.writable_subset (d.mem_writable_of_mem_texts he))
  rw [writeOut, value?_insertAllMissing hp hkeys (foldKey_of_mem_recognised h)]

theorem agreeOn_writeOut (hp : p.normalized = true) {keys : List String}
    (hkeys : keys ⊆ Key.recognised) (hnot : ∀ key ∈ keys, key ∉ Key.writable) :
    AgreeOn keys (p.writeOut d) p := by
  intro key hkey
  have hnone : d.texts.lookup key = none := by
    rw [List.lookup_eq_none_iff]
    intro e he
    rw [bne_iff_ne]
    rintro rfl
    exact hnot _ hkey (d.mem_writable_of_mem_texts he)
  rw [value?_writeOut hp (hkeys hkey), hnone, Option.map_none, Option.or_none]

theorem value?_writeOut_of_text (hp : p.normalized = true) {key text : String}
    (h : (key, text) ∈ d.texts) :
    (p.writeOut d).value? key = (p.value? key).or (some (tidy text)) := by
  have hkey : key ∈ Key.recognised := Key.writable_subset (d.mem_writable_of_mem_texts h)
  rw [value?_writeOut hp hkey, d.lookup_texts h, Option.map_some]

theorem readValue_sizeText (n : Int32) : readValue .int32 (tidy (sizeText n)) = .ok n :=
  readValue_writeInt_int32 n

theorem readValue_flagText (b : Bool) : readValue .flag (tidy (flagText b)) = .ok b := by
  have htidy : tidy (flagText b) = if b then "1" else "0" := by
    cases b <;> decide
  rw [htidy]
  cases b <;> decide

/-- An axis setting that is written out is the default for every axis. -/
theorem getAxes_of_text {t : ValueType} {ks : Key.AxisKeys} {text : t.Carrier → String}
    {v : PerAxis t.Carrier} {q : Parameters}
    (htext : ∀ a, readValue t (tidy (text a)) = .ok a)
    (h : ∀ key value, (key, value) ∈ ks.texts text v →
      q.value? key = (p.value? key).or (some (tidy value)))
    (huniform : q.get? t ks.uniform = p.get? t ks.uniform) (default : PerAxis t.Carrier)
    (accept : t.Carrier → Bool) :
    q.getAxes t ks default accept = p.getAxes t ks v accept := by
  have hx := getD_of_text (h ks.axes.x (text v.x) (by simp [Key.AxisKeys.texts])) (htext v.x)
  have hy := getD_of_text (h ks.axes.y (text v.y) (by simp [Key.AxisKeys.texts])) (htext v.y)
  have hz := getD_of_text (h ks.axes.z (text v.z) (by simp [Key.AxisKeys.texts])) (htext v.z)
  rw [getAxes, getAxes, hx, hy, hz, huniform]

/-! ## The parts -/

theorem readGlobal_writeOut (hp : p.normalized = true) (d' : Defaults) :
    Extent.readGlobal d' (p.writeOut d) = Extent.readGlobal d p := by
  have huniform : AgreeOn [Key.globalSize.uniform] (p.writeOut d) p :=
    agreeOn_writeOut hp (by decide) (by decide)
  refine getAxes_of_text readValue_sizeText (fun key value h => ?_)
    (readsOnly_get? .int32 (List.mem_singleton.2 rfl) _ _ huniform) _ _
  exact value?_writeOut_of_text hp (List.mem_append_left _ (List.mem_append_right _ h))

theorem readExtent_writeOut (hp : p.normalized = true) (d' : Defaults) (dimension : Nat) :
    Extent.read d' (p.writeOut d) dimension = Extent.read d p dimension := by
  have hagree : AgreeOn Key.localSize.toList (p.writeOut d) p :=
    agreeOn_writeOut hp (by decide) (by decide)
  have hlocal := Extent.readsOnly_readLocal _ _ hagree
  have hsizes : Extent.readSizes d' (p.writeOut d) = Extent.readSizes d p := by
    rw [Extent.readSizes, Extent.readSizes, hlocal, readGlobal_writeOut hp]
  rw [Extent.read, Extent.read, hsizes]

theorem getChoiceD_writeOut {α : Type} [Choice α] (hp : p.normalized = true) {key : String} {a : α}
    (h : (key, Choice.word a) ∈ d.texts) (hword : Choice.word a ∈ (Choice.kind α).words)
    (hfind : Choice.find? (Choice.word a) = some a) (default : α) :
    (p.writeOut d).getChoiceD key default = p.getChoiceD key a :=
  getChoiceD_of_text (value?_writeOut_of_text hp h) hword hfind default

theorem readGeometry_writeOut (hp : p.normalized = true) (d' : Defaults) :
    Geometry.read d' (p.writeOut d) = Geometry.read d p := by
  have hgridType : (p.writeOut d).getChoiceD Key.gridType d'.gridType =
      p.getChoiceD Key.gridType d.gridType := by
    refine getChoiceD_writeOut hp (by simp [Defaults.texts, Choice.word]) ?_ ?_ _
    · cases d.gridType <;> decide
    · cases d.gridType <;> decide
  have hdomain : (p.writeOut d).getChoiceD Key.domain d'.domain =
      p.getChoiceD Key.domain d.domain := by
    refine getChoiceD_writeOut hp (by simp [Defaults.texts, Choice.word]) ?_ ?_ _
    · cases d.domain <;> decide
    · cases d.domain <;> decide
  have huniform : AgreeOn [Key.avoidOrigin.uniform] (p.writeOut d) p :=
    agreeOn_writeOut hp (by decide) (by decide)
  have havoid : (p.writeOut d).getAxes .flag Key.avoidOrigin d'.avoidOrigin (fun avoid => !avoid) =
      p.getAxes .flag Key.avoidOrigin d.avoidOrigin fun avoid => !avoid := by
    refine getAxes_of_text readValue_flagText (fun key value h => ?_)
      (readsOnly_get? .flag (List.mem_singleton.2 rfl) _ _ huniform) _ _
    exact value?_writeOut_of_text hp (List.mem_append_right _ h)
  rw [Geometry.read, Geometry.read, hgridType, hdomain, havoid]

theorem readMethod_writeOut (hp : p.normalized = true) (d' : Defaults) :
    TimeStepMethod.read d' (p.writeOut d) = TimeStepMethod.read d p := by
  refine getChoiceD_writeOut hp (by simp [Defaults.texts, Choice.word]) ?_ ?_ _
  · cases d.method <;> decide
  · cases d.method <;> decide

/-! ## The whole -/

theorem resolveGrid_writeOut (hp : p.normalized = true) (gridType : GridType) (domain : Domain)
    (method : TimeStepMethod) (globalSize : PerAxis Int32) (avoidOrigin : PerAxis Bool) :
    resolveGrid { d with gridType, domain, method, globalSize, avoidOrigin } (p.writeOut d) =
      resolveGrid d p := by
  have hlast : readLastIteration (p.writeOut d) = readLastIteration p :=
    readsOnly_readLastIteration _ _ (agreeOn_writeOut hp (by decide) (by decide))
  have hcoordinates (t : GridType) : Coordinates.read
      { d with gridType, domain, method, globalSize, avoidOrigin } (p.writeOut d) t =
        Coordinates.read d p t := by
    have hkeys : t.keys ⊆ Key.recognised ∧ ∀ key ∈ t.keys, key ∉ Key.writable := by
      cases t <;> decide
    have hsame : Coordinates.read d (p.writeOut d) t = Coordinates.read d p t :=
      Coordinates.readsOnly_read d t _ _ (agreeOn_writeOut hp hkeys.1 hkeys.2)
    rw [← hsame]
    cases t <;> rfl
  have hstep (m : TimeStepMethod) (h : Hierarchy) : m.step
      { d with gridType, domain, method, globalSize, avoidOrigin } (p.writeOut d) h =
        m.step d p h := by
    have hkeys : m.keys ⊆ Key.recognised ∧ ∀ key ∈ m.keys, key ∉ Key.writable := by
      cases m <;> decide
    exact m.readsOnly_step d h _ _ (agreeOn_writeOut hp hkeys.1 hkeys.2)
  rw [resolveGrid, resolveGrid]
  simp only [hlast, readExtent_writeOut hp, readGeometry_writeOut hp, hcoordinates,
    readMethod_writeOut hp, hstep]
  rfl

end

/-- Parameters with the text of every default whose key is not set resolve as the parameters do
without, whatever the defaults with a text are then replaced by. -/
theorem resolve_writeOut (d : Defaults) (p : Parameters) (gridType : GridType) (domain : Domain)
    (method : TimeStepMethod) (globalSize : PerAxis Int32) (avoidOrigin : PerAxis Bool) :
    SameGrid
      (resolve { d with gridType, domain, method, globalSize, avoidOrigin } (p.writeOut d))
      (resolve d p) := by
  refine sameGrid_of_map_grid ?_
  have hnormalize : (p.writeOut d).normalize = p.normalize.writeOut d :=
    normalize_insertAllMissing p d.texts
  rw [map_grid_resolve, map_grid_resolve, hnormalize]
  exact resolveGrid_writeOut (normalized_normalize p) gridType domain method globalSize avoidOrigin

end GridSetup
