import GridSetup.Proofs.Settings.Order
import GridSetup.Settings.Path
import Mathlib.Data.List.Nodup

/-!
# Assignments at independent places

Values put at two places of a tree end up in the same tree in either order, as
long as neither place is on the way to the other. The way may lead through
anything: a table, in which the other place is found as it was, or a plain value,
which gives way to a table for the first of the two and is a table for the second.

The one trace of the order is the order of the entries of a table, where a new
entry goes to the end. So trees are compared up to that order.

`write` is the assignment along a way that only leads through tables, with the
keys in the form in which they are compared. It takes what stands at the start of
the way, or nothing, and gives what stands there afterwards. That makes both ends
of the way cases of one recursion.

A value that is a table is itself gone through entry by entry, and two of its keys
can be one where keys are compared. Which of them wins is left to the order unless
the value spells each key once (`SpelledOnce`), and what the value says for sure of
a place is `Sets`.
-/

namespace GridSetup.Setting

variable {v w : Setting}

/-! ## Ways through tables -/

/-- What stands at the start of a way through tables after a value is put at its end. -/
def write (value : Setting) : List String → Option Setting → Setting
  | [], old =>
    match value with
    | .table entries => (old.getD (.table [])).putAll entries
    | value => value
  | key :: rest, old =>
    (old.getD .null).setEntry key (write value rest (Setting.entry? (old.getD .null) key))

/-- What stands at the end of a way through tables. -/
def find? (s : Setting) : List String → Option Setting
  | [] => some s
  | key :: rest => (s.entry? key).bind fun t => t.find? rest

/-- Neither of two ways leads over the end of the other. -/
def Apart (ks ls : List String) : Prop :=
  ¬ ks <+: ls ∧ ¬ ls <+: ks

instance (ks ls : List String) : Decidable (Apart ks ls) :=
  inferInstanceAs (Decidable (_ ∧ _))

section

variable {value : Setting} {ks ls : List String} {old old' : Option Setting}

theorem write_nil_of_isTable (h : value.isTable = false) : write value [] old = value := by
  cases value with
  | table entries => cases h
  | null | flag | integer | real | text | list => rfl

theorem put_eq_write (s : Setting) (key : String) (value : Setting) :
    s.put key value = write value [foldKey key] (some s) := by
  show s.put key value = s.setEntry (foldKey key) (write value [] (s.entry? (foldKey key)))
  cases value with
  | table entries => rw [put, write]
  | null | flag | integer | real | text | list =>
      rw [put, write]
      all_goals simp

/-- An assignment through tables only. -/
theorem assign_entries (value : Setting) (key : String) (keys : List String) (s : Setting) :
    s.assign value (.entry key) (keys.map .entry) =
      write value ((key :: keys).map foldKey) (some s) := by
  induction keys generalizing s key with
  | nil => exact put_eq_write s key value
  | cons next rest ih =>
      show s.setEntry (foldKey key) (assign ((s.entry? (foldKey key)).getD .null) value
        (.entry next) (rest.map .entry)) = _
      rw [ih]
      rfl

theorem Shuffled.write (h : Option.Rel Shuffled old old') (value : Setting)
    (keys : List String) : Shuffled (write value keys old) (write value keys old') := by
  induction keys generalizing old old' with
  | nil =>
      cases value with
      | table entries => exact Shuffled.putAll (Shuffled.getD h _) entries
      | null | flag | integer | real | text | list => exact .refl _
  | cons key rest ih =>
      have hstart := Shuffled.getD h .null
      exact hstart.setEntry key (ih (hstart.lookup key))

theorem Shuffled.find? {s t : Setting} (h : Shuffled s t) (keys : List String) :
    Option.Rel Shuffled (s.find? keys) (t.find? keys) := by
  induction keys generalizing s t with
  | nil => exact .some h
  | cons key rest ih =>
      have hlookup := h.lookup key
      rw [Setting.find?, Setting.find?]
      generalize s.entry? key = o at hlookup ⊢
      generalize t.entry? key = o' at hlookup ⊢
      cases hlookup with
      | none => exact .none
      | some hv => exact ih hv

/-- A plain setting is found in any order. -/
theorem Shuffled.find?_plain {s t leaf : Setting} (h : Shuffled s t) {keys : List String}
    (hs : s.find? keys = some leaf) (hleaf : leaf.isTable = false) : t.find? keys = some leaf := by
  have hfind := h.find? keys
  rw [hs] at hfind
  generalize t.find? keys = o at hfind ⊢
  cases hfind with
  | some hv => rw [hv.eq_of_isTable hleaf]

/-- The items of a list that is on the way of an assignment are the same in any order. -/
theorem Shuffled.items_eq {s t : Setting} (h : Shuffled s t) : t.items = s.items := by
  induction h with
  | refl s => rfl
  | trans _ _ ih ih' => exact ih'.trans ih
  | swap | entry => rfl

theorem Shuffled.assign {s t : Setting} (h : Shuffled s t) (value : Setting) (step : Step)
    (steps : List Step) : Shuffled (s.assign value step steps) (t.assign value step steps) := by
  induction steps generalizing s t step with
  | nil =>
      cases step with
      | entry key => exact h.put key value
      | item index =>
          rw [Setting.assign, Setting.assign, h.items_eq]
          exact .refl _
  | cons next rest ih =>
      cases step with
      | entry key => exact h.setEntry _ (ih (Shuffled.getD (h.lookup _) .null) next)
      | item index =>
          rw [Setting.assign, Setting.assign, h.items_eq]
          exact .refl _

theorem Apart.symm (h : Apart ks ls) : Apart ls ks :=
  ⟨h.2, h.1⟩

theorem not_apart_nil : ¬ Apart [] ls :=
  fun h => h.1 List.nil_prefix

theorem Apart.tail {key : String} (h : Apart (key :: ks) (key :: ls)) : Apart ks ls := by
  constructor
  · intro hprefix
    exact h.1 ((List.prefix_cons_inj key).2 hprefix)
  · intro hprefix
    exact h.2 ((List.prefix_cons_inj key).2 hprefix)

/-- What lies beyond the end of a way is apart from what the way is apart from. -/
theorem Apart.append (h : Apart ks ls) (further : List String) : Apart (ks ++ further) ls := by
  constructor
  · intro hprefix
    exact h.1 ((List.prefix_append ks further).trans hprefix)
  · intro hprefix
    rcases List.prefix_or_prefix_of_prefix hprefix (List.prefix_append ks further) with hls | hks
    · exact h.2 hls
    · exact h.1 hks

/-- Values at the ends of ways that are apart change places. -/
theorem shuffled_write_comm (h : Apart ks ls) (v w : Setting) (old : Option Setting) :
    Shuffled (write w ls (some (write v ks old))) (write v ks (some (write w ls old))) := by
  induction ks generalizing ls old with
  | nil => exact absurd h not_apart_nil
  | cons k ks ih =>
      cases ls with
      | nil => exact absurd h.symm not_apart_nil
      | cons l ls =>
          simp only [Setting.write, Option.getD_some, entry?_setEntry]
          by_cases hkl : k = l
          · subst hkl
            simp only [if_true, setEntry_setEntry]
            exact (Shuffled.refl _).setEntry k (ih h.tail _)
          · simp only [if_neg hkl, if_neg (Ne.symm hkl)]
            exact shuffled_setEntry_comm _ hkl _ _

/-- What stands beyond the end of a way is what the value makes of what was there. -/
theorem find?_write_append (value : Setting) (ks further : List String) (old : Option Setting) :
    ∃ there, (write value ks old).find? (ks ++ further) = (write value [] there).find? further := by
  induction ks generalizing old with
  | nil => exact ⟨old, rfl⟩
  | cons key rest ih =>
      obtain ⟨there, h⟩ := ih (Setting.entry? (old.getD .null) key)
      refine ⟨there, ?_⟩
      show ((old.getD .null).setEntry key (write value rest _)).find? (key :: (rest ++ further)) = _
      rw [Setting.find?, entry?_setEntry, if_pos rfl, Option.bind_some, h]

/-- What stands at the end of a way is what it was if a value is put at the end of a way apart. -/
theorem find?_write_of_apart (h : Apart ks ls) (value : Setting) (old : Option Setting) :
    (write value ls old).find? ks = old.bind fun s => s.find? ks := by
  induction ks generalizing ls old with
  | nil => exact absurd h not_apart_nil
  | cons k ks ih =>
      cases ls with
      | nil => exact absurd h.symm not_apart_nil
      | cons l ls =>
          have hold : (old.bind fun s => s.find? (k :: ks)) =
              (Setting.entry? (old.getD .null) k).bind fun s => s.find? ks := by
            cases old with
            | none => rfl
            | some s => rfl
          rw [Setting.write, Setting.find?, entry?_setEntry, hold]
          by_cases hkl : k = l
          · subst hkl
            rw [if_pos rfl, Option.bind_some, ih h.tail]
          · rw [if_neg hkl]

end

/-! ## Values that are tables -/

theorem putAll_append (s : Setting) (es fs : List (String × Setting)) :
    s.putAll (es ++ fs) = (s.putAll es).putAll fs := by
  induction es generalizing s with
  | nil => rw [List.nil_append, putAll]
  | cons e rest ih => rw [List.cons_append, putAll, putAll, ih]

/-- Every table of a tree has each key once, in the form in which keys are compared. -/
inductive SpelledOnce : Setting → Prop where
  | plain {s : Setting} : s.isTable = false → SpelledOnce s
  | table {es : List (String × Setting)} : (es.map fun e => foldKey e.1).Nodup →
      (∀ e ∈ es, SpelledOnce e.2) → SpelledOnce (.table es)

theorem SpelledOnce.shuffled (h : SpelledOnce v) (hvw : Shuffled v w) : SpelledOnce w := by
  induction hvw with
  | refl s => exact h
  | trans _ _ ih ih' => exact ih' (ih h)
  | @swap pre e f post _ =>
      have hperm : (pre ++ e :: f :: post).Perm (pre ++ f :: e :: post) :=
        (List.Perm.swap f e post).append_left pre
      cases h with
      | plain h => cases h
      | table hkeys hvalues =>
          refine .table ((hperm.map _).nodup_iff.1 hkeys) fun x hx => ?_
          exact hvalues x (hperm.mem_iff.2 hx)
  | @entry pre key v w post _ ih =>
      cases h with
      | plain h => cases h
      | table hkeys hvalues =>
          rw [List.forall_mem_append, List.forall_mem_cons] at hvalues
          obtain ⟨hpre, hv, hpost⟩ := hvalues
          refine .table (by simpa using hkeys) ?_
          rw [List.forall_mem_append, List.forall_mem_cons]
          exact ⟨hpre, ih hv, hpost⟩

/-- Values that do the same to every table do the same at the end of a way. -/
theorem shuffled_write_of_putAll (hvw : Shuffled v w)
    (h : ∀ s : Setting, Shuffled (s.putAll v.entries) (s.putAll w.entries)) (keys : List String)
    (old : Option Setting) : Shuffled (write v keys old) (write w keys old) := by
  induction keys generalizing old with
  | nil =>
      cases hv : v.isTable with
      | false =>
          rw [hvw.eq_of_isTable hv]
          exact .refl _
      | true =>
          have hw := hvw.isTable_eq.trans hv
          cases v with
          | table es =>
              cases w with
              | table fs => exact h _
              | null | flag | integer | real | text | list => cases hw
          | null | flag | integer | real | text | list => cases hv
  | cons key rest ih => exact (Shuffled.refl _).setEntry key (ih _)

theorem shuffled_putAll (hvw : Shuffled v w) (h : SpelledOnce v) (s : Setting) :
    Shuffled (s.putAll v.entries) (s.putAll w.entries) := by
  induction hvw generalizing s with
  | refl v => exact .refl _
  | trans hvw _ ih ih' => exact (ih h s).trans (ih' (h.shuffled hvw) s)
  | @swap pre e f post _ =>
      cases h with
      | plain h => cases h
      | table hkeys _ =>
          rw [List.map_append, List.map_cons, List.map_cons] at hkeys
          have hne : foldKey e.1 ≠ foldKey f.1 := fun heq => by
            have hnodup := List.nodup_cons.1 hkeys.of_append_right
            exact hnodup.1 (heq ▸ List.mem_cons_self)
          have hapart : Apart [foldKey e.1] [foldKey f.1] := by
            constructor
            · intro hprefix
              exact hne (List.cons_prefix_cons.1 hprefix).1
            · intro hprefix
              exact hne (List.cons_prefix_cons.1 hprefix).1.symm
          simp only [entries, putAll_append, putAll, put_eq_write]
          exact Shuffled.putAll (shuffled_write_comm hapart e.2 f.2 _) post
  | @entry pre key v w post hvw ih =>
      cases h with
      | plain h => cases h
      | table _ hvalues =>
          have hv : SpelledOnce v := hvalues (key, v) (List.mem_append_right pre List.mem_cons_self)
          simp only [entries, putAll_append, putAll, put_eq_write]
          exact Shuffled.putAll (shuffled_write_of_putAll hvw (ih hv) [foldKey key] _) post

/-- A value that spells each key once can be gone through in any order. -/
theorem shuffled_write (hvw : Shuffled v w) (h : SpelledOnce v) (keys : List String)
    (old : Option Setting) : Shuffled (write v keys old) (write w keys old) :=
  shuffled_write_of_putAll hvw (shuffled_putAll hvw h) keys old

/-- A value, put into a tree, leaves a plain setting at the end of a way, whatever was there and in
whatever order its entries are met. Further along the way it has a single entry for each key. -/
inductive Sets : Setting → List String → Setting → Prop where
  | plain {leaf : Setting} : leaf.isTable = false → Sets leaf [] leaf
  | entry {es : List (String × Setting)} {k key : String} {value leaf : Setting}
      {ks : List String} : (es.filter fun e => foldKey e.1 == k) = [(key, value)] →
      Sets value ks leaf → Sets (.table es) (k :: ks) leaf

section

variable {ks : List String} {leaf : Setting}

theorem Sets.isTable_eq (h : Sets v ks leaf) : leaf.isTable = false := by
  induction h with
  | plain h => exact h
  | entry _ _ ih => exact ih

theorem Sets.shuffled (h : Sets v ks leaf) (hvw : Shuffled v w) : Sets w ks leaf := by
  induction hvw generalizing ks with
  | refl v => exact h
  | trans _ _ ih ih' => exact ih' (ih h)
  | @swap pre e f post hne =>
      cases h with
      | plain h => cases h
      | @entry _ k key value _ ks hfilter h =>
          have hperm : ((pre ++ e :: f :: post).filter fun e => foldKey e.1 == k).Perm
              ((pre ++ f :: e :: post).filter fun e => foldKey e.1 == k) :=
            ((List.Perm.swap f e post).append_left pre).filter _
          rw [hfilter] at hperm
          exact .entry (List.singleton_perm.1 hperm).symm h
  | @entry pre l v w post _ ih =>
      cases h with
      | plain h => cases h
      | @entry _ k key value _ ks hfilter h =>
          rw [List.filter_append, List.filter_cons] at hfilter
          by_cases hl : (foldKey l == k) = true
          · rw [if_pos hl] at hfilter
            obtain ⟨hpre, hrest⟩ : pre.filter (fun e => foldKey e.1 == k) = [] ∧
                (l, v) :: post.filter (fun e => foldKey e.1 == k) = [(key, value)] := by
              rcases List.append_eq_singleton_iff.1 hfilter with ⟨hpre, hrest⟩ | ⟨_, hrest⟩
              · exact ⟨hpre, hrest⟩
              · cases hrest
            obtain ⟨hentry, hpost⟩ := List.cons.inj hrest
            cases hentry
            have hfilter' : (pre ++ (l, w) :: post).filter (fun e => foldKey e.1 == k) =
                [(l, w)] := by
              rw [List.filter_append, List.filter_cons, if_pos hl, hpre, hpost, List.nil_append]
            exact .entry hfilter' (ih h)
          · rw [if_neg hl] at hfilter
            have hfilter' : (pre ++ (l, w) :: post).filter (fun e => foldKey e.1 == k) =
                [(key, value)] := by
              rw [List.filter_append, List.filter_cons, if_neg hl]
              exact hfilter
            exact .entry hfilter' h

theorem entry?_putAll_of_ne {k : String} {es : List (String × Setting)}
    (h : ∀ e ∈ es, foldKey e.1 ≠ k) (s : Setting) :
    Setting.entry? (s.putAll es) k = s.entry? k := by
  induction es generalizing s with
  | nil => rw [putAll]
  | cons e rest ih =>
      obtain ⟨he, hrest⟩ := List.forall_mem_cons.1 h
      rw [putAll, ih hrest, put_eq_write, write, entry?_setEntry, if_neg he.symm]
      rfl

/-- What a value sets is found there. -/
theorem Sets.find?_write (h : Sets v ks leaf) (old : Option Setting) :
    (write v [] old).find? ks = some leaf := by
  induction h generalizing old with
  | plain h =>
      rw [write_nil_of_isTable h]
      rfl
  | @entry es k key value leaf ks hfilter _ ih =>
      obtain ⟨pre, post, rfl, -, hkey, hpost⟩ := List.filter_eq_cons_iff.1 hfilter
      have hafter : ∀ e ∈ post, foldKey e.1 ≠ k := by
        intro e he heq
        exact List.filter_eq_nil_iff.1 hpost e he (beq_iff_eq.2 heq)
      have hk : k = foldKey key := (beq_iff_eq.1 hkey).symm
      rw [write, putAll_append, putAll, find?, entry?_putAll_of_ne hafter, put_eq_write, write,
        entry?_setEntry, if_pos hk, Option.bind_some, ih]

end

/-! ## Many values -/

/-- A tree with values put at the ends of ways, one after the other. -/
def writeAll (s : Setting) (writes : List (List String × Setting)) : Setting :=
  writes.foldl (fun s w => write w.2 w.1 (some s)) s

/-- No two ways of a list lead one over the end of the other. -/
def AllApart (writes : List (List String × Setting)) : Prop :=
  writes.Pairwise fun v w => Apart v.1 w.1

theorem AllApart.perm {ws ws' : List (List String × Setting)} (h : AllApart ws)
    (hperm : ws.Perm ws') : AllApart ws' :=
  (hperm.pairwise_iff fun hvw => Apart.symm hvw).1 h

theorem Shuffled.writeAll {s t : Setting} (h : Shuffled s t)
    (writes : List (List String × Setting)) :
    Shuffled (s.writeAll writes) (t.writeAll writes) := by
  induction writes generalizing s t with
  | nil => exact h
  | cons w rest ih => exact ih (Shuffled.write (.some h) w.2 w.1)

/-- Values at places apart leave the same tree in whatever order they are put there. -/
theorem shuffled_writeAll_of_perm {ws ws' : List (List String × Setting)} (hperm : ws.Perm ws')
    (hapart : AllApart ws) (s : Setting) : Shuffled (s.writeAll ws) (s.writeAll ws') := by
  induction hperm generalizing s with
  | nil => exact .refl s
  | cons w _ ih => exact ih (List.pairwise_cons.1 hapart).2 _
  | swap v w rest =>
      obtain ⟨hw, hrest⟩ := List.pairwise_cons.1 hapart
      exact (shuffled_write_comm (hw v List.mem_cons_self) w.2 v.2 (some s)).writeAll rest
  | trans hperm _ ih ih' => exact (ih hapart s).trans (ih' (hapart.perm hperm) s)

theorem find?_writeAll_of_apart {ks : List String} {ws : List (List String × Setting)}
    (h : ∀ w ∈ ws, Apart ks w.1) (s : Setting) : (s.writeAll ws).find? ks = s.find? ks := by
  induction ws generalizing s with
  | nil => rfl
  | cons w rest ih =>
      obtain ⟨hw, hrest⟩ := List.forall_mem_cons.1 h
      exact (ih hrest _).trans (find?_write_of_apart hw w.2 (some s))

/-- What a value sets is found there, whatever is put elsewhere before or after. -/
theorem find?_writeAll {ws : List (List String × Setting)} (hapart : AllApart ws)
    {w : List String × Setting} (hw : w ∈ ws) {ks : List String} {leaf : Setting}
    (hsets : Sets w.2 ks leaf) (s : Setting) : (s.writeAll ws).find? (w.1 ++ ks) = some leaf := by
  induction ws generalizing s with
  | nil => cases hw
  | cons v rest ih =>
      obtain ⟨hv, hrest⟩ := List.pairwise_cons.1 hapart
      rcases List.mem_cons.1 hw with rfl | hw
      · have happend : ∀ x ∈ rest, Apart (w.1 ++ ks) x.1 := fun x hx => (hv x hx).append ks
        obtain ⟨there, hthere⟩ := find?_write_append w.2 w.1 ks (some s)
        exact (find?_writeAll_of_apart happend _).trans (hthere.trans (hsets.find?_write there))
      · exact ih hrest hw _

end GridSetup.Setting
