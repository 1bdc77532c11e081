import GridSetup.Table
import Mathlib.Data.List.Sort
import Mathlib.Data.String.Basic

/-!
# Tables are what their look-ups say

Entries stand in the order of their keys and each key stands once, so a table is determined by what
it answers, and every law of insertion can be read off `get?_insert`: the later of two insertions
under one key stays, and insertions under different keys change places.

`ofEntries` puts a list of entries in one after the other. It takes a table's own list of entries
back to the table, which is what makes printing a table and reading it back possible at all. With
other keys for the entries, `renameKeys`, a look-up finds under a key's new name what it found under
the old one, as long as no two keys get the same name.
-/

namespace GridSetup.Table

variable {α β : Type}

theorem eq_of_toList {a b : Table α} (h : a.toList = b.toList) : a = b := by
  cases a
  cases b
  cases h
  rfl

theorem lookup_eq_some_iff {entries : List (String × α)}
    (h : entries.Pairwise fun a b => a.1 < b.1) {key : String} {value : α} :
    entries.lookup key = some value ↔ (key, value) ∈ entries := by
  induction entries with
  | nil => simp
  | cons head rest ih =>
      obtain ⟨k, v⟩ := head
      obtain ⟨hhead, hrest⟩ := List.pairwise_cons.1 h
      rw [lookup_entry, List.mem_cons, Prod.mk.injEq]
      split
      · next hk =>
          subst hk
          constructor
          · intro hv
            exact Or.inl ⟨rfl, (Option.some.inj hv).symm⟩
          · rintro (⟨-, rfl⟩ | hmem)
            · rfl
            · exact absurd (hhead _ hmem) (lt_irrefl _)
      · next hk =>
          rw [ih hrest]
          exact ⟨Or.inr, fun hor => hor.resolve_left fun he => hk he.1⟩

theorem get?_eq_some_iff {t : Table α} {key : String} {value : α} :
    t.get? key = some value ↔ (key, value) ∈ t.toList :=
  lookup_eq_some_iff t.sorted

theorem mem_keys_iff {t : Table α} {key : String} :
    key ∈ t.toList.map Prod.fst ↔ (t.get? key).isSome = true := by
  rw [Option.isSome_iff_exists, List.mem_map]
  constructor
  · rintro ⟨⟨k, v⟩, hmem, rfl⟩
    exact ⟨v, get?_eq_some_iff.2 hmem⟩
  · rintro ⟨v, hv⟩
    exact ⟨(key, v), get?_eq_some_iff.1 hv, rfl⟩

/-- Two tables that answer every look-up alike are equal. -/
theorem ext_get? {a b : Table α} (h : ∀ key, a.get? key = b.get? key) : a = b := by
  have hirrefl : Std.Irrefl fun a b : String × α => a.1 < b.1 := ⟨fun e => lt_irrefl e.1⟩
  have hasymm : Std.Asymm fun a b : String × α => a.1 < b.1 := ⟨fun _ _ h => lt_asymm h⟩
  refine eq_of_toList (List.Pairwise.eq_of_mem_iff a.sorted b.sorted fun e => ?_)
  rw [← get?_eq_some_iff, ← get?_eq_some_iff, h]

theorem insert_insert (t : Table α) (key : String) (v w : α) :
    (t.insert key v).insert key w = t.insert key w := by
  apply ext_get?
  intro query
  simp only [get?_insert]
  split <;> rfl

theorem insert_comm (t : Table α) {k l : String} (h : k ≠ l) (v w : α) :
    (t.insert k v).insert l w = (t.insert l w).insert k v := by
  apply ext_get?
  intro query
  simp only [get?_insert]
  by_cases hl : query = l
  · rw [if_pos hl, if_neg (fun hk => h (hk.symm.trans hl)), if_pos hl]
  · rw [if_neg hl, if_neg hl]

theorem mapValues_insert (f : α → β) (t : Table α) (key : String) (value : α) :
    (t.insert key value).mapValues f = (t.mapValues f).insert key (f value) := by
  apply ext_get?
  intro query
  simp only [get?_mapValues, get?_insert]
  split <;> rfl

/-! ## Tables from lists of entries -/

/-- The table with entries put in one after the other. -/
def insertEntries (t : Table α) (entries : List (String × α)) : Table α :=
  entries.foldl (fun t e => t.insert e.1 e.2) t

/-- The table of a list of entries, of which a later one replaces an earlier one. -/
def ofEntries (entries : List (String × α)) : Table α :=
  empty.insertEntries entries

theorem insertEntries_cons (t : Table α) (e : String × α) (entries : List (String × α)) :
    t.insertEntries (e :: entries) = (t.insert e.1 e.2).insertEntries entries := rfl

theorem insertEntries_append (t : Table α) (xs ys : List (String × α)) :
    t.insertEntries (xs ++ ys) = (t.insertEntries xs).insertEntries ys :=
  List.foldl_append

/-- An entry whose key comes again later leaves no trace. -/
theorem insertEntries_insert_of_mem (t : Table α) {key : String} (v : α)
    {entries : List (String × α)} (h : key ∈ entries.map Prod.fst) :
    (t.insert key v).insertEntries entries = t.insertEntries entries := by
  induction entries generalizing t with
  | nil => cases h
  | cons e rest ih =>
      rw [insertEntries_cons, insertEntries_cons]
      by_cases he : key = e.1
      · rw [he, insert_insert]
      · have hrest : key ∈ rest.map Prod.fst := by
          rcases List.mem_cons.1 h with h | h
          · exact absurd h he
          · exact h
        rw [insert_comm t he, ih _ hrest]

theorem mem_insertEntries {t : Table α} {entries : List (String × α)} {e : String × α}
    (h : e ∈ (t.insertEntries entries).toList) : e ∈ t.toList ∨ e ∈ entries := by
  induction entries generalizing t with
  | nil => exact Or.inl h
  | cons head rest ih =>
      rcases ih h with h | h
      · rcases mem_insertEntry h with h | h
        · exact Or.inr (List.mem_cons.2 (Or.inl h))
        · exact Or.inl h
      · exact Or.inr (List.mem_cons_of_mem _ h)

theorem mem_of_mem_ofEntries {entries : List (String × α)} {e : String × α}
    (h : e ∈ (ofEntries entries).toList) : e ∈ entries := by
  rcases mem_insertEntries h with h | h
  · cases h
  · exact h

/-- A key beyond all others goes to the end. -/
theorem insertEntry_of_lt {key : String} {value : α} {entries : List (String × α)}
    (h : ∀ e ∈ entries, e.1 < key) : insertEntry key value entries = entries ++ [(key, value)] := by
  induction entries with
  | nil => rfl
  | cons head rest ih =>
      obtain ⟨k, v⟩ := head
      have hk : k < key := h (k, v) List.mem_cons_self
      rw [insertEntry, if_neg (lt_asymm hk), if_neg (ne_of_gt hk),
        ih fun e he => h e (List.mem_cons_of_mem _ he), List.cons_append]

theorem toList_insertEntries_of_sorted (t : Table α) {entries : List (String × α)}
    (h : (t.toList ++ entries).Pairwise fun a b => a.1 < b.1) :
    (t.insertEntries entries).toList = t.toList ++ entries := by
  induction entries generalizing t with
  | nil => rw [List.append_nil]; rfl
  | cons e rest ih =>
      have hlast : ∀ x ∈ t.toList, x.1 < e.1 := fun x hx =>
        (List.pairwise_append.1 h).2.2 x hx e List.mem_cons_self
      have hinsert : (t.insert e.1 e.2).toList = t.toList ++ [e] := insertEntry_of_lt hlast
      have hsplit : t.toList ++ e :: rest = (t.toList ++ [e]) ++ rest := by simp
      rw [insertEntries_cons, ih (t.insert e.1 e.2), hinsert, hsplit]
      rwa [hinsert, ← hsplit]

/-- A table is the table of its own entries. -/
theorem ofEntries_toList (t : Table α) : ofEntries t.toList = t :=
  eq_of_toList (toList_insertEntries_of_sorted empty t.sorted)

theorem get?_insertEntries (t : Table α) {entries : List (String × α)}
    (h : (entries.map Prod.fst).Nodup) (key : String) :
    (t.insertEntries entries).get? key = (entries.lookup key).or (t.get? key) := by
  induction entries generalizing t with
  | nil => rfl
  | cons e rest ih =>
      obtain ⟨k, v⟩ := e
      obtain ⟨hk, hrest⟩ := List.nodup_cons.1 h
      rw [insertEntries_cons, ih _ hrest, get?_insert, lookup_entry]
      by_cases heq : key = k
      · subst heq
        have hnone : rest.lookup key = none := by
          refine List.lookup_eq_none_iff.2 fun e he => bne_iff_ne.2 ?_
          rintro rfl
          exact hk (List.mem_map.2 ⟨e, he, rfl⟩)
        rw [hnone, if_pos rfl, if_pos rfl, Option.none_or, Option.some_or]
      · rw [if_neg heq, if_neg heq]

/-! ## Other keys -/

/-- The table with every entry under another key. -/
def renameKeys (f : String → String) (t : Table α) : Table α :=
  ofEntries (t.toList.map fun e => (f e.1, e.2))

theorem lookup_renamed {f : String → String} (hf : f.Injective) (entries : List (String × α))
    (key : String) : (entries.map fun e => (f e.1, e.2)).lookup (f key) = entries.lookup key := by
  induction entries with
  | nil => rfl
  | cons e rest ih =>
      obtain ⟨k, v⟩ := e
      rw [List.map_cons, lookup_entry, lookup_entry, ih]
      simp only [hf.eq_iff]

theorem get?_renameKeys {f : String → String} (hf : f.Injective) (t : Table α) (key : String) :
    (t.renameKeys f).get? (f key) = t.get? key := by
  have hkeys : (t.toList.map Prod.fst).Nodup :=
    List.pairwise_map.2 (t.sorted.imp fun h => ne_of_lt h)
  have hnodup : ((t.toList.map fun e => (f e.1, e.2)).map Prod.fst).Nodup := by
    have hmap := hkeys.map hf
    rwa [List.map_map] at hmap ⊢
  rw [renameKeys, ofEntries, get?_insertEntries _ hnodup, lookup_renamed hf, get?_empty,
    Option.or_none]
  rfl

end GridSetup.Table
