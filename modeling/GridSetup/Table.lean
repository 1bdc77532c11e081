/-!
# Tables ordered by key

A table maps strings to values and lists its entries in the order of the code points of their
keys, each key once. The order is part of the type, so two tables that answer every look-up alike
are equal, whatever was put into them in which order.

`insert` replaces the value of a key or adds the key at its place; `get?_insert` says what a
look-up finds afterwards.
-/

namespace GridSetup

/-- Entries in strictly rising order of their keys. -/
structure Table (α : Type) where
  toList : List (String × α)
  sorted : toList.Pairwise fun a b => a.1 < b.1

namespace Table

variable {α β : Type}

/-- The table without entries. -/
def empty : Table α :=
  ⟨[], List.Pairwise.nil⟩

instance : Inhabited (Table α) := ⟨empty⟩

instance [DecidableEq α] : DecidableEq (Table α) := fun a b =>
  if h : a.toList = b.toList then
    .isTrue (by cases a; cases b; simp_all)
  else .isFalse fun e => h (e ▸ rfl)

/-- Puts an entry at its place among sorted entries, in the place of one with the same key. -/
def insertEntry (key : String) (value : α) : List (String × α) → List (String × α)
  | [] => [(key, value)]
  | (k, v) :: rest =>
    if key < k then (key, value) :: (k, v) :: rest
    else if key = k then (key, value) :: rest
    else (k, v) :: insertEntry key value rest

theorem mem_insertEntry {key : String} {value : α} {entries : List (String × α)}
    {e : String × α} (h : e ∈ insertEntry key value entries) :
    e = (key, value) ∨ e ∈ entries := by
  induction entries with
  | nil => simpa [insertEntry] using h
  | cons head rest ih =>
    obtain ⟨k, v⟩ := head
    simp only [insertEntry] at h
    split at h
    · simpa using h
    · split at h
      · rcases List.mem_cons.1 h with h | h
        · exact Or.inl h
        · exact Or.inr (List.mem_cons_of_mem _ h)
      · rcases List.mem_cons.1 h with h | h
        · exact Or.inr (h ▸ List.mem_cons_self)
        · exact (ih h).imp id (List.mem_cons_of_mem _)

theorem sorted_insertEntry (key : String) (value : α) {entries : List (String × α)}
    (h : entries.Pairwise fun a b => a.1 < b.1) :
    (insertEntry key value entries).Pairwise fun a b => a.1 < b.1 := by
  induction entries with
  | nil => simp [insertEntry]
  | cons head rest ih =>
    obtain ⟨k, v⟩ := head
    obtain ⟨hhead, hrest⟩ := List.pairwise_cons.1 h
    simp only [insertEntry]
    split
    case isTrue hlt =>
      refine List.pairwise_cons.2 ⟨fun e he => ?_, h⟩
      rcases List.mem_cons.1 he with rfl | he
      · exact hlt
      · exact String.lt_trans hlt (hhead e he)
    case isFalse hlt =>
      split
      case isTrue heq =>
        exact List.pairwise_cons.2 ⟨fun e he => heq ▸ hhead e he, hrest⟩
      case isFalse hne =>
        refine List.pairwise_cons.2 ⟨fun e he => ?_, ih hrest⟩
        rcases mem_insertEntry he with rfl | he
        · show k < key
          grind
        · exact hhead e he

/-- The table with a value put under a key. -/
def insert (t : Table α) (key : String) (value : α) : Table α :=
  ⟨insertEntry key value t.toList, sorted_insertEntry key value t.sorted⟩

/-- The value under a key. -/
def get? (t : Table α) (key : String) : Option α :=
  t.toList.lookup key

/-- Whether a key has a value. -/
def contains (t : Table α) (key : String) : Bool :=
  (t.get? key).isSome

/-- The number of keys. -/
def size (t : Table α) : Nat :=
  t.toList.length

/-- The table with a function applied to every value. -/
def mapValues (f : α → β) (t : Table α) : Table β :=
  ⟨t.toList.map fun e => (e.1, f e.2), by
    simpa [List.pairwise_map] using t.sorted⟩

@[simp] theorem get?_empty (key : String) : (empty : Table α).get? key = none := rfl

theorem lookup_entry (query key : String) (value : α) (rest : List (String × α)) :
    ((key, value) :: rest).lookup query = if query = key then some value else rest.lookup query := by
  by_cases h : query = key
  · simp [h]
  · simp [List.lookup_cons, beq_eq_false_iff_ne.2 h, h]

theorem lookup_insertEntry (key : String) (value : α) (entries : List (String × α))
    (query : String) :
    (insertEntry key value entries).lookup query =
      if query = key then some value else entries.lookup query := by
  induction entries with
  | nil => simp [insertEntry, lookup_entry]
  | cons head rest ih =>
    obtain ⟨k, v⟩ := head
    simp only [insertEntry]
    split
    · simp [lookup_entry]
    · split
      case isTrue heq =>
        subst heq
        by_cases h : query = key <;> simp [lookup_entry, h]
      case isFalse hne =>
        by_cases h : query = k
        · subst h
          rw [lookup_entry, lookup_entry, if_pos rfl, if_pos rfl, if_neg fun e => hne e.symm]
        · simp [lookup_entry, h, ih]

/-- After an insertion the key has the new value and every other key what it had. -/
theorem get?_insert (t : Table α) (key : String) (value : α) (query : String) :
    (t.insert key value).get? query = if query = key then some value else t.get? query :=
  lookup_insertEntry key value t.toList query

theorem lookup_map (f : α → β) (entries : List (String × α)) (query : String) :
    (entries.map fun e => (e.1, f e.2)).lookup query = (entries.lookup query).map f := by
  induction entries with
  | nil => rfl
  | cons head rest ih =>
    obtain ⟨k, v⟩ := head
    by_cases h : query = k <;> simp [lookup_entry, h, ih]

@[simp] theorem get?_mapValues (f : α → β) (t : Table α) (query : String) :
    (t.mapValues f).get? query = (t.get? query).map f :=
  lookup_map f t.toList query

end Table

end GridSetup
