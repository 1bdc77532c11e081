import GridSetup.Proofs.Parameters.Entries
import Mathlib.Data.List.Dedup

/-!
# Parameters are what was put into them

Parameters are made from pairs, added to and tidied, in any order and any number of times. What can
be observed of them in the end is much less than that sequence. It is the list of pairs put in since
they were made, and whether they were tidied since: the `History` of the changes. A value put into
tidied parameters is tidied on its way in and the others were tidied before, so it makes no
difference when the tidying happened, nor how often.

`apply_parameters` is that statement for one change and `applyAll_eq` for a sequence. It gives the
parameters in closed form, as tidied or untidied parameters of the pairs in order, and a look-up in
those is a look at the pairs from the end (`get?_ofPairs`).
-/

namespace GridSetup.Parameters

open GridSetup.Parameter GridSetup.Text

/-- A change to parameters. -/
inductive Change where
  | insert (key value : String)
  /-- New parameters with the given values, in the place of those before. -/
  | ofPairs (pairs : List (String × String))
  | normalize

/-- The parameters after a change. -/
def apply (p : Parameters) : Change → Parameters
  | .insert key value => p.insert key value
  | .ofPairs pairs => .ofPairs pairs
  | .normalize => p.normalize

/-- Whether a change tidies. -/
def Change.tidies : Change → Bool
  | .normalize => true
  | _ => false

/-- The parameters after changes to none. -/
def applyAll (changes : List Change) : Parameters :=
  changes.foldl apply empty

/-- What changes leave to be seen. -/
structure History where
  /-- The pairs put in since the parameters were made, in order. -/
  pairs : List (String × String)
  /-- Whether the parameters were tidied since they were made. -/
  tidied : Bool

namespace History

/-- The history with one more change. -/
def after (h : History) : Change → History
  | .insert key value => { h with pairs := h.pairs ++ [(key, value)] }
  | .ofPairs pairs => ⟨pairs, false⟩
  | .normalize => { h with tidied := true }

/-- The history of changes to no parameters. -/
def ofChanges (changes : List Change) : History :=
  changes.foldl after ⟨[], false⟩

/-- The parameters that a history comes down to. -/
def parameters (h : History) : Parameters :=
  if h.tidied then (Parameters.ofPairs h.pairs).normalize else .ofPairs h.pairs

/-- The form in which a value is found. -/
def stored (h : History) (value : String) : String :=
  if h.tidied then tidy value else value

/-- The last pair put in under a key, in any case. -/
def last? (h : History) (key : String) : Option (String × String) :=
  h.pairs.reverse.find? fun e => foldKey e.1 == foldKey key

end History

/-! ## The closed form -/

theorem ofPairs_append (xs ys : List (String × String)) :
    ofPairs (xs ++ ys) = (ofPairs xs).insertAll ys :=
  List.foldl_append

theorem apply_parameters (h : History) (c : Change) :
    h.parameters.apply c = (h.after c).parameters := by
  obtain ⟨pairs, tidied⟩ := h
  cases c with
  | insert key value =>
      have happend : ofPairs (pairs ++ [(key, value)]) = (ofPairs pairs).insert key value :=
        ofPairs_append pairs _
      cases tidied with
      | false => exact happend.symm
      | true =>
          show (ofPairs pairs).normalize.insert key value =
            (ofPairs (pairs ++ [(key, value)])).normalize
          rw [happend, normalize_insert]
  | ofPairs others => rfl
  | normalize =>
      cases tidied with
      | false => rfl
      | true => exact normalize_normalize _

theorem applyAll_eq (changes : List Change) :
    applyAll changes = (History.ofChanges changes).parameters := by
  have hfrom : ∀ h : History, changes.foldl apply h.parameters =
      (changes.foldl History.after h).parameters := by
    induction changes with
    | nil =>
        intro h
        rfl
    | cons c cs ih =>
        intro h
        rw [List.foldl_cons, List.foldl_cons, apply_parameters, ih]
  exact hfrom ⟨[], false⟩

/-! ## Look-ups -/

theorem normalized_insertAll (p : Parameters) (pairs : List (String × String)) :
    (p.insertAll pairs).normalized = p.normalized := by
  induction pairs generalizing p with
  | nil => rfl
  | cons e rest ih => exact ih (p.insert e.1 e.2)

theorem normalized_ofPairs (pairs : List (String × String)) : (ofPairs pairs).normalized = false :=
  normalized_insertAll empty pairs

/-- The value under a key is that of the last pair whose key has that lower case. -/
theorem get?_ofPairs (pairs : List (String × String)) (key : String) :
    (ofPairs pairs).table.get? key =
      (pairs.reverse.find? fun e => foldKey e.1 == key).map Prod.snd := by
  induction pairs using List.reverseRecOn with
  | nil => rfl
  | append_singleton rest e ih =>
      obtain ⟨k, v⟩ := e
      have hinsert : (ofPairs (rest ++ [(k, v)])).table =
          (ofPairs rest).table.insert (foldKey k) v := by
        rw [ofPairs_append]
        show ((ofPairs rest).insert k v).table = _
        rw [insert, normalized_ofPairs]
        rfl
      rw [hinsert, Table.get?_insert, ih, List.reverse_concat', List.find?_cons]
      by_cases h : key = foldKey k
      · rw [if_pos h, h, beq_self_eq_true]
        rfl
      · rw [if_neg h, beq_eq_false_iff_ne.2 fun he => h he.symm]

namespace History

theorem normalized_parameters (h : History) : h.parameters.normalized = h.tidied := by
  rw [parameters]
  cases h.tidied with
  | false => exact normalized_ofPairs h.pairs
  | true => exact normalized_normalize _

theorem get?_parameters (h : History) (key : String) :
    h.parameters.table.get? key =
      (h.pairs.reverse.find? fun e => foldKey e.1 == key).map fun e => h.stored e.2 := by
  rw [parameters]
  cases ht : h.tidied with
  | false =>
      have hstored : h.stored = id := by
        funext v
        rw [stored, ht]
        rfl
      rw [hstored]
      exact get?_ofPairs h.pairs key
  | true =>
      have hstored : h.stored = tidy := by
        funext v
        rw [stored, ht]
        rfl
      have htable : (ofPairs h.pairs).normalize.table = (ofPairs h.pairs).table.mapValues tidy := by
        rw [normalize, normalized_ofPairs]
        rfl
      rw [if_pos rfl, htable, Table.get?_mapValues, get?_ofPairs, hstored, Option.map_map]
      rfl

theorem value?_parameters (h : History) (key : String) :
    h.parameters.value? key = (h.last? key).map fun e => h.stored e.2 :=
  get?_parameters h (foldKey key)

theorem mem_keys_parameters {h : History} {key : String} :
    key ∈ h.parameters.entries.map Prod.fst ↔ key ∈ h.pairs.map fun e => foldKey e.1 := by
  rw [entries, Table.mem_keys_iff, get?_parameters, Option.isSome_map, List.find?_isSome]
  simp

theorem mem_entries_parameters {h : History} {e : String × String}
    (he : e ∈ h.parameters.entries) : ∃ v, e.2 = h.stored v := by
  have hget := Table.get?_eq_some_iff.2 (show (e.1, e.2) ∈ _ from he)
  rw [get?_parameters] at hget
  obtain ⟨pair, -, hv⟩ := Option.map_eq_some_iff.1 hget
  exact ⟨pair.2, hv.symm⟩

theorem tidy_stored {h : History} (ht : h.tidied = true) (value : String) :
    tidy (h.stored value) = h.stored value := by
  rw [stored, if_pos ht, tidy_tidy]

theorem size_parameters (h : History) :
    h.parameters.size = (h.pairs.map fun e => foldKey e.1).dedup.length := by
  have hnodup : (h.parameters.entries.map Prod.fst).Nodup :=
    (List.pairwise_map.2 h.parameters.table.sorted).imp fun hlt => ne_of_lt hlt
  have hperm : (h.parameters.entries.map Prod.fst).Perm (h.pairs.map fun e => foldKey e.1).dedup := by
    rw [List.perm_ext_iff_of_nodup hnodup (List.nodup_dedup _)]
    intro key
    rw [mem_keys_parameters, List.mem_dedup]
  rw [← hperm.length_eq, List.length_map]
  rfl

end History

/-- What parameters show of their history. -/
structure Shows (h : History) (p : Parameters) : Prop where
  normalized : p.normalized = h.tidied
  keys_rise : (p.entries.map Prod.fst).Pairwise (· < ·)
  keys_lower : ∀ key ∈ p.entries.map Prod.fst, foldKey key = key
  value : ∀ key, p.value? key = (h.last? key).map fun e => h.stored e.2
  value_isSome : ∀ key, (p.value? key).isSome = true ↔ ∃ e ∈ h.pairs, foldKey e.1 = foldKey key
  contains : ∀ key, p.contains key = (p.value? key).isSome
  size : p.size = (h.pairs.map fun e => foldKey e.1).dedup.length
  values_tidy : p.normalized = true → ∀ e ∈ p.entries, tidy e.2 = e.2

theorem shows_parameters (h : History) : Shows h h.parameters where
  normalized := h.normalized_parameters
  keys_rise := List.pairwise_map.2 h.parameters.table.sorted
  keys_lower := by
    intro key hkey
    obtain ⟨e, -, rfl⟩ := List.mem_map.1 (History.mem_keys_parameters.1 hkey)
    exact foldKey_foldKey e.1
  value := h.value?_parameters
  value_isSome := by
    intro key
    rw [h.value?_parameters, Option.isSome_map, History.last?, List.find?_isSome]
    simp
  contains := fun _ => rfl
  size := h.size_parameters
  values_tidy := by
    intro ht e he
    obtain ⟨v, hv⟩ := History.mem_entries_parameters he
    rw [hv, History.tidy_stored (h.normalized_parameters.symm.trans ht)]

/-! ## Tidying once -/

theorem normalize_parameters (h : History) :
    h.parameters.normalize = (ofPairs h.pairs).normalize := by
  rw [History.parameters]
  cases h.tidied with
  | false => rfl
  | true => exact normalize_normalize _

/-- Which pairs were put in does not depend on the tidying in between. -/
theorem pairs_ofChanges_filter (changes : List Change) :
    (History.ofChanges (changes.filter fun c => !c.tidies)).pairs =
      (History.ofChanges changes).pairs := by
  have hfrom : ∀ h h' : History, h.pairs = h'.pairs →
      ((changes.filter fun c => !c.tidies).foldl History.after h).pairs =
        (changes.foldl History.after h').pairs := by
    induction changes with
    | nil =>
        intro h h' he
        exact he
    | cons c cs ih =>
        intro h h' he
        cases c with
        | insert key value =>
            apply ih
            show h.pairs ++ [(key, value)] = h'.pairs ++ [(key, value)]
            rw [he]
        | ofPairs pairs => exact ih _ _ rfl
        | normalize => exact ih _ _ he
  exact hfrom _ _ rfl

theorem applyAll_concat_normalize (changes : List Change) :
    applyAll (changes ++ [.normalize]) =
      (ofPairs (History.ofChanges changes).pairs).normalize := by
  rw [applyAll, List.foldl_append, ← normalize_parameters, ← applyAll_eq]
  rfl

/-- Parameters show what was put in last under each key and whether they are tidied, whatever the
changes were. If they are tidied in the end, the tidying before that could have been left out. -/
theorem applyAll_shows_history (changes : List Change) :
    Shows (History.ofChanges changes) (applyAll changes) ∧
      applyAll (changes ++ [.normalize]) =
        applyAll ((changes.filter fun c => !c.tidies) ++ [.normalize]) := by
  constructor
  · rw [applyAll_eq]
    exact shows_parameters _
  · rw [applyAll_concat_normalize, applyAll_concat_normalize, pairs_ofChanges_filter]

/-- A value put in late. A key is lower-cased as a whole: its last letter by its place in the word,
one letter to two, and a sign that only looks like a letter. -/
theorem applyAll_shows_history_sigma :
    let changes : List Change := [.insert "ΑΣ" "1", .normalize, .insert "ας" " \"No\" "]
    foldKey "ΑΣ" = "ας" ∧ foldKey "ΑΣΑ" = "ασα" ∧ foldKey "Grid::İ" = "grid::i\u0307" ∧
      foldKey "\u212aey" = "key" ∧ (applyAll changes).value? "Ας" = some "0" ∧
      (applyAll changes).value? "ασ" = none ∧ (applyAll changes).contains "αΣ" = true ∧
      (applyAll changes).size = 1 ∧
      applyAll (changes ++ [.normalize]) =
        applyAll [.insert "ΑΣ" "1", .insert "ας" " \"No\" ", .normalize] := by
  intro changes
  obtain ⟨hshows, honce⟩ := applyAll_shows_history changes
  have hthere : (applyAll changes).value? "αΣ" = some "0" :=
    (hshows.value "αΣ").trans (by decide +kernel)
  refine ⟨by decide +kernel, by decide +kernel, by decide +kernel, by decide +kernel, ?_, ?_, ?_,
    ?_, honce⟩
  · exact (hshows.value "Ας").trans (by decide +kernel)
  · exact (hshows.value "ασ").trans (by decide +kernel)
  · rw [hshows.contains, hthere]
    rfl
  · exact hshows.size.trans (by decide +kernel)

end GridSetup.Parameters
