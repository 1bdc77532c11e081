import GridSetup.Settings.Conversion
import GridSetup.Table
import Mathlib.Data.List.Basic

/-!
# The order of entries

Trees that differ in the order of entries only stay such trees whatever is put
into them, and what is found in them differs in the order of entries only. That
is the content of this file. It is what lets the rest speak of one tree where the
program may go through many.

The proofs follow the derivation of `Setting.Shuffled`. Two of its cases have
content: two neighbours with different keys change places, and one value is
replaced by a shuffled one. A fact about a whole table is brought down to these
by `Shuffled.prepend`, which says that what stands in front does not matter.
-/

namespace GridSetup.Setting

variable {s t u v w : Setting} {es fs : List (String × Setting)}

namespace Shuffled

theorem symm (h : Shuffled s t) : Shuffled t s := by
  induction h with
  | refl s => exact .refl s
  | trans _ _ ih ih' => exact ih'.trans ih
  | swap pre post hne => exact .swap pre post hne.symm
  | entry pre key post _ ih => exact .entry pre key post ih

theorem prepend (h : Shuffled s t) (pre : List (String × Setting)) :
    Shuffled (.table (pre ++ s.entries)) (.table (pre ++ t.entries)) := by
  induction h with
  | refl s => exact .refl _
  | trans _ _ ih ih' => exact ih.trans ih'
  | swap pre' post hne =>
      simp only [entries, ← List.append_assoc]
      exact .swap _ post hne
  | entry pre' key post h _ =>
      simp only [entries, ← List.append_assoc]
      exact .entry _ key post h

theorem cons (h : Shuffled (.table es) (.table fs)) (e : String × Setting) :
    Shuffled (.table (e :: es)) (.table (e :: fs)) :=
  h.prepend [e]

/-- A setting that is no table is gone through in one way only. -/
theorem eq_of_isTable (h : Shuffled s t) (hs : s.isTable = false) : t = s := by
  induction h with
  | refl s => rfl
  | trans _ _ ih ih' =>
      obtain rfl := ih hs
      exact ih' hs
  | swap | entry => cases hs

theorem isTable_eq (h : Shuffled s t) : t.isTable = s.isTable := by
  induction h with
  | refl s => rfl
  | trans _ _ ih ih' => exact ih'.trans ih
  | swap | entry => rfl

theorem keys_perm (h : Shuffled s t) :
    (s.entries.map Prod.fst).Perm (t.entries.map Prod.fst) := by
  induction h with
  | refl s => exact .refl _
  | trans _ _ ih ih' => exact ih.trans ih'
  | swap pre post _ =>
      simp only [entries, List.map_append, List.map_cons]
      exact (List.Perm.swap _ _ _).append_left _
  | entry pre key post _ _ => simp [entries]

/-! ## What is found -/

theorem rel_refl (o : Option Setting) : Option.Rel Shuffled o o := by
  cases o with
  | none => exact .none
  | some v => exact .some (.refl v)

theorem rel_trans {o o' o'' : Option Setting} (h : Option.Rel Shuffled o o')
    (h' : Option.Rel Shuffled o' o'') : Option.Rel Shuffled o o'' := by
  cases h with
  | none => exact h'
  | some hv =>
      cases h' with
      | some hv' => exact .some (hv.trans hv')

theorem getD {o o' : Option Setting} (h : Option.Rel Shuffled o o') (s : Setting) :
    Shuffled (o.getD s) (o'.getD s) := by
  cases h with
  | none => exact .refl s
  | some hv => exact hv

theorem lookup (h : Shuffled s t) (key : String) :
    Option.Rel Shuffled (s.entry? key) (t.entry? key) := by
  induction h with
  | refl s => exact rel_refl _
  | trans _ _ ih ih' => exact rel_trans ih ih'
  | @swap pre e f post hne =>
      obtain ⟨k, v⟩ := e
      obtain ⟨l, w⟩ := f
      simp only [ entry?, entries, List.lookup_append, Table.lookup_entry]
      by_cases hk : key = k
      · have hl : ¬ key = l := fun hl => hne (hk.symm.trans hl)
        simp only [if_pos hk, if_neg hl]
        exact rel_refl _
      · simp only [if_neg hk]
        exact rel_refl _
  | @entry pre k v w post h _ =>
      simp only [ entry?, entries, List.lookup_append, Table.lookup_entry]
      cases pre.lookup key with
      | some x => exact rel_refl _
      | none =>
          split
          · exact .some h
          · exact rel_refl _

end Shuffled

/-! ## One entry -/

theorem lookup_replaceEntry (key : String) (value : Setting) (es : List (String × Setting))
    (query : String) :
    (replaceEntry key value es).lookup query =
      if query = key then some value else es.lookup query := by
  induction es with
  | nil => rw [replaceEntry, Table.lookup_entry]
  | cons e rest ih =>
      obtain ⟨k, v⟩ := e
      rw [replaceEntry, Table.lookup_entry]
      split
      · next heq =>
          subst heq
          rw [Table.lookup_entry]
          split
          · rfl
          · rfl
      · next hne =>
          rw [Table.lookup_entry, ih]
          by_cases hk : query = k
          · subst hk
            rw [if_pos rfl, if_neg hne, if_pos rfl]
          · rw [if_neg hk, if_neg hk]

theorem replaceEntry_replaceEntry (key : String) (v w : Setting) (es : List (String × Setting)) :
    replaceEntry key w (replaceEntry key v es) = replaceEntry key w es := by
  induction es with
  | nil => simp only [replaceEntry, if_true]
  | cons e rest ih =>
      obtain ⟨k, x⟩ := e
      rw [replaceEntry, replaceEntry]
      by_cases hk : k = key
      · rw [if_pos hk, if_pos hk, replaceEntry, if_pos rfl]
      · rw [if_neg hk, if_neg hk, replaceEntry, if_neg hk, ih]

/-- An entry is replaced in its place, or put at the end. -/
theorem replaceEntry_split (key : String) (es : List (String × Setting)) :
    ∃ pre post, ∀ value, replaceEntry key value es = pre ++ (key, value) :: post := by
  induction es with
  | nil => exact ⟨[], [], fun value => rfl⟩
  | cons e rest ih =>
      obtain ⟨k, x⟩ := e
      by_cases hk : k = key
      · exact ⟨[], rest, fun value => if_pos hk⟩
      · obtain ⟨pre, post, h⟩ := ih
        refine ⟨(k, x) :: pre, post, fun value => ?_⟩
        rw [replaceEntry, if_neg hk, h]
        rfl

theorem shuffled_replaceEntry (key : String) (h : Shuffled v w) (es : List (String × Setting)) :
    Shuffled (.table (replaceEntry key v es)) (.table (replaceEntry key w es)) := by
  obtain ⟨pre, post, hsplit⟩ := replaceEntry_split key es
  rw [hsplit, hsplit]
  exact .entry pre key post h

theorem shuffled_replaceEntry_comm {k l : String} (h : k ≠ l) (v w : Setting)
    (es : List (String × Setting)) :
    Shuffled (.table (replaceEntry l w (replaceEntry k v es)))
      (.table (replaceEntry k v (replaceEntry l w es))) := by
  induction es with
  | nil =>
      simp only [replaceEntry, if_neg h, if_neg h.symm]
      exact .swap [] [] h
  | cons e rest ih =>
      obtain ⟨m, x⟩ := e
      by_cases hk : m = k
      · have hl : m ≠ l := fun hl => h (hk.symm.trans hl)
        simp only [replaceEntry, if_pos hk, if_neg h, if_neg hl]
        exact .refl _
      · by_cases hl : m = l
        · simp only [replaceEntry, if_neg hk, if_pos hl, if_neg h.symm]
          exact .refl _
        · simp only [replaceEntry, if_neg hk, if_neg hl]
          exact ih.cons (m, x)

theorem replaceEntry_append (key : String) (value : Setting) (pre es : List (String × Setting)) :
    replaceEntry key value (pre ++ es) =
      if key ∈ pre.map Prod.fst then replaceEntry key value pre ++ es
      else pre ++ replaceEntry key value es := by
  induction pre with
  | nil => rfl
  | cons e pre ih =>
      obtain ⟨k, x⟩ := e
      rw [List.cons_append, replaceEntry, replaceEntry, ih, List.map_cons]
      by_cases hk : k = key
      · rw [if_pos hk, if_pos (List.mem_cons.2 (.inl hk.symm)), if_pos hk]
        rfl
      · rw [if_neg hk, if_neg hk]
        by_cases hmem : key ∈ pre.map Prod.fst
        · rw [if_pos hmem, if_pos (List.mem_cons_of_mem _ hmem)]
          rfl
        · rw [if_neg hmem, if_neg]
          · rfl
          · intro hcons
            rcases List.mem_cons.1 hcons with heq | hmem'
            · exact hk heq.symm
            · exact hmem hmem'

theorem entry?_setEntry (s : Setting) (key : String) (value : Setting) (query : String) :
    Setting.entry? (s.setEntry key value) query =
      if query = key then some value else s.entry? query :=
  lookup_replaceEntry key value s.entries query

theorem setEntry_setEntry (s : Setting) (key : String) (v w : Setting) :
    (s.setEntry key v).setEntry key w = s.setEntry key w :=
  congrArg Setting.table (replaceEntry_replaceEntry key v w s.entries)

/-- Entries under different keys change places. -/
theorem shuffled_setEntry_comm (s : Setting) {k l : String} (h : k ≠ l) (v w : Setting) :
    Shuffled ((s.setEntry k v).setEntry l w) ((s.setEntry l w).setEntry k v) :=
  shuffled_replaceEntry_comm h v w s.entries

namespace Shuffled

theorem replaceEntry_of_swap (key : String) (value : Setting) {e f : String × Setting}
    (post : List (String × Setting)) (hne : e.1 ≠ f.1) :
    Shuffled (.table (replaceEntry key value (e :: f :: post)))
      (.table (replaceEntry key value (f :: e :: post))) := by
  obtain ⟨k, x⟩ := e
  obtain ⟨l, y⟩ := f
  simp only [replaceEntry]
  by_cases hk : k = key
  · have hl : l ≠ key := fun hl => hne (hk.trans hl.symm)
    rw [if_pos hk, if_neg hl, if_pos hk]
    exact .swap [] post hl.symm
  · by_cases hl : l = key
    · rw [if_neg hk, if_pos hl, if_pos hl]
      exact .swap [] post hk
    · rw [if_neg hk, if_neg hl, if_neg hl, if_neg hk]
      exact .swap [] _ hne

theorem setEntry_left (h : Shuffled s t) (key : String) (value : Setting) :
    Shuffled (s.setEntry key value) (t.setEntry key value) := by
  induction h with
  | refl s => exact .refl _
  | trans _ _ ih ih' => exact ih.trans ih'
  | @swap pre e f post hne =>
      simp only [setEntry, entries, replaceEntry_append]
      split
      · exact .swap _ post hne
      · exact (replaceEntry_of_swap key value post hne).prepend pre
  | @entry pre k v w post h _ =>
      simp only [setEntry, entries, replaceEntry_append]
      split
      · exact .entry _ k post h
      · simp only [replaceEntry]
        split
        · exact .refl _
        · exact .entry pre k _ h

theorem setEntry (h : Shuffled s t) (key : String) (hv : Shuffled v w) :
    Shuffled (s.setEntry key v) (t.setEntry key w) :=
  (shuffled_replaceEntry key hv s.entries).trans (h.setEntry_left key w)

end Shuffled

/-! ## Values put into a table -/

mutual

theorem Shuffled.put {s t : Setting} (h : Shuffled s t) (key : String) :
    ∀ value, Shuffled (s.put key value) (t.put key value)
  | .table entries => by
      rw [Setting.put, Setting.put]
      exact h.setEntry _ (Shuffled.putAll (Shuffled.getD (h.lookup _) _) entries)
  | .null | .flag _ | .integer _ | .real _ | .text _ | .list _ => by
      rw [Setting.put, Setting.put]
      · exact h.setEntry _ (.refl _)
      all_goals simp

theorem Shuffled.putAll {s t : Setting} (h : Shuffled s t) :
    ∀ entries, Shuffled (s.putAll entries) (t.putAll entries)
  | [] => by
      rw [Setting.putAll, Setting.putAll]
      exact h
  | (key, value) :: rest => by
      rw [Setting.putAll, Setting.putAll]
      exact Shuffled.putAll (Shuffled.put h key value) rest

end

end GridSetup.Setting
