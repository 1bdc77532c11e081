import GridSetup.Proofs.Layers.Calls
import GridSetup.Proofs.Settings.Reading

/-!
# The order of layers

Calls for layers come in any order, and most orders amount to the same. Files are
laid in the order in which they are named and overrides after them, so a file and
an override never meet, and overrides meet only each other. If no override goes to
a place on the way to that of another, they can be exchanged. An optional file that
is nowhere leaves what is below it.

What can come out is more than one thing, since tables are gone through in an order
that nothing fixes. The calls in another order have the same outcomes, each of them
under some order of the tables. If the sources leave nothing to chance, because
every key is spelled once, a record that comes out under one order comes out under
all. Which of two faults is reported stays open even then.
-/

namespace GridSetup

open Setting

namespace Layers

open Layer

/-! ## Overrides put in place -/

/-- What is gone through in two orders is the same tree up to the order of entries. -/
theorem shuffled_orders (order order' : TableOrder) (occasion : Occasion) (s : Setting) :
    Shuffled (order.tree occasion s) (order'.tree occasion s) :=
  (order.tree_shuffled occasion s).symm.trans (order'.tree_shuffled occasion s)

/-- What an override puts at the end of its way. -/
def putInPlace (order : TableOrder) (o : Setting.Path × Setting) : List String × Setting :=
  (pathWay o.1, order.tree (.override o.1) o.2)

theorem layOverrides_eq (order : TableOrder) (s : Setting) (calls : List Layer) :
    layOverrides order s (calls.filterMap override?) =
      s.writeAll ((order.overrides (calls.filterMap override?)).map (putInPlace order)) := by
  rw [layOverrides, writeAll, List.foldl_map]
  refine List.foldl_ext _ _ _ fun t o ho => ?_
  obtain ⟨key, -, hkey⟩ := exists_key ((order.overrides_perm _).mem_iff.1 ho)
  rw [putInPlace, hkey, assignAt_plainPath, pathWay_plainPath]

theorem allApart_putInPlace {os : List (Setting.Path × Setting)}
    (h : os.Pairwise fun o o' => Apart (pathWay o.1) (pathWay o'.1)) (order order' : TableOrder) :
    AllApart ((order.overrides os).map (putInPlace order')) := by
  have hmet := ((order.overrides_perm os).pairwise_iff fun hab => Apart.symm hab).2 h
  exact List.pairwise_map.2 hmet

/-! ## Sources that are laid alike -/

/-- The table of a file leaves nothing to chance: each key is spelled once, and no key at the top is
a longer path. -/
structure Unambiguous (content : Setting) : Prop where
  spelledOnce : SpelledOnce content
  short : ∀ key ∈ content.entries.map Prod.fst, ∀ path, Setting.Path.read key = some path →
    path.steps = []

theorem Unambiguous.shuffled {content content' : Setting} (h : Unambiguous content)
    (hshuffled : Shuffled content content') : Unambiguous content' where
  spelledOnce := h.spelledOnce.shuffled hshuffled
  short key hkey := h.short key (hshuffled.keys_perm.mem_iff.2 hkey)

/-- Two orders lay the sources of some calls alike: each file and each override is gone through in
one order, or leaves nothing to chance. -/
structure LaidAlike (order order' : TableOrder) (files : Files) (calls : List Layer) : Prop where
  files : ∀ contents, readFiles files (calls.filterMap file?) = .ok contents →
    ∀ n content, contents[n]? = some content →
      order.tree (.file n) content = order'.tree (.file n) content ∨ Unambiguous content
  overrides : ∀ key value, .override key value ∈ calls →
    order.tree (.override (plainPath key)) value = order'.tree (.override (plainPath key)) value ∨
      SpelledOnce value

theorem readSteps_eq_nil {fuel : Nat} {cs : List Char}
    (h : Setting.Path.readSteps fuel cs = some []) : cs = [] := by
  cases cs with
  | nil => rfl
  | cons c cs =>
      rw [Setting.Path.readSteps.eq_def] at h
      split at h
      · next heq => exact heq
      · obtain ⟨_, _, h⟩ := Option.bind_eq_some_iff.1 h
        obtain ⟨_, _, h⟩ := Option.bind_eq_some_iff.1 h
        cases h
      · obtain ⟨_, _, h⟩ := Option.bind_eq_some_iff.1 h
        obtain ⟨_, _, h⟩ := Option.bind_eq_some_iff.1 h
        cases h
      · cases h

/-- A key that reads as a path without further steps is the start of that path. -/
theorem read_eq_of_steps {key : String} {path : Setting.Path}
    (h : Setting.Path.read key = some path) (hsteps : path.steps = []) : path.start = key := by
  obtain ⟨⟨start, rest⟩, hsplit, h⟩ := Option.bind_eq_some_iff.1 h
  obtain ⟨steps, hread, h⟩ := Option.bind_eq_some_iff.1 h
  cases h
  obtain rfl : steps = [] := hsteps
  obtain rfl := readSteps_eq_nil hread
  rw [Setting.Path.splitKey] at hsplit
  split at hsplit
  · cases hsplit
  · rw [Option.some.injEq, Prod.mk.injEq] at hsplit
    obtain ⟨hstart, hrest⟩ := hsplit
    have hwhole := List.takeWhile_append_dropWhile (p := Setting.Path.isKeyChar) (l := key.toList)
    rw [hrest, List.append_nil] at hwhole
    rw [← hstart, hwhole, String.ofList_toList]

theorem layEntry_eq_put {s : Setting} {e : String × Setting}
    (h : ∀ path, Setting.Path.read e.1 = some path → path.steps = []) :
    layEntry s e = s.put e.1 e.2 := by
  rw [layEntry]
  split
  · next path hread =>
      rw [assignAt, h path hread, read_eq_of_steps hread (h path hread)]
      rfl
  · rfl

theorem layTable_eq_putAll {content : Setting} (h : Unambiguous content) (s : Setting) :
    layTable s content = s.putAll content.entries := by
  have hshort := h.short
  rw [layTable]
  generalize content.entries = es at hshort ⊢
  induction es generalizing s with
  | nil => rw [putAll, List.foldl_nil]
  | cons e rest ih =>
      obtain ⟨he, hrest⟩ := List.forall_mem_cons.1 hshort
      rw [List.foldl_cons, putAll, layEntry_eq_put he]
      exact ih _ hrest

theorem shuffled_layEntry {s t : Setting} (h : Shuffled s t) (e : String × Setting) :
    Shuffled (layEntry s e) (layEntry t e) := by
  rw [layEntry, layEntry]
  split
  · exact h.assign _ _ _
  · exact h.put _ _

theorem shuffled_layTable {s t : Setting} (h : Shuffled s t) (content : Setting) :
    Shuffled (layTable s content) (layTable t content) := by
  rw [layTable, layTable]
  generalize content.entries = es
  induction es generalizing s t with
  | nil => exact h
  | cons e rest ih => exact ih (shuffled_layEntry h e)

theorem shuffled_layTables {order order' : TableOrder} {contents : List Setting} {n : Nat}
    (halike : ∀ i content, contents[i]? = some content →
      order.tree (.file (n + i)) content = order'.tree (.file (n + i)) content ∨
        Unambiguous content)
    {s t : Setting} (h : Shuffled s t) :
    Shuffled (layTables order n s contents) (layTables order' n t contents) := by
  induction contents generalizing n s t with
  | nil => exact h
  | cons content rest ih =>
      have hrest : ∀ i content', rest[i]? = some content' →
          order.tree (.file (n + 1 + i)) content' = order'.tree (.file (n + 1 + i)) content' ∨
            Unambiguous content' := by
        intro i content' hi
        have hi' : (content :: rest)[i + 1]? = some content' := hi
        rw [Nat.add_assoc, Nat.add_comm 1 i]
        exact halike (i + 1) content' hi'
      refine ih hrest ?_
      rcases halike 0 content rfl with heq | hone
      · rw [Nat.add_zero] at heq
        rw [heq]
        exact shuffled_layTable h _
      · have hmet := hone.shuffled (order.tree_shuffled (.file n) content)
        have hmet' := hone.shuffled (order'.tree_shuffled (.file n) content)
        rw [layTable_eq_putAll hmet, layTable_eq_putAll hmet']
        have horders := shuffled_orders order order' (.file n) content
        exact (h.putAll _).trans (shuffled_putAll horders hmet.spelledOnce t)

theorem shuffled_writeAll_map {order order' : TableOrder} {os : List (Setting.Path × Setting)}
    (halike : ∀ o ∈ os, order.tree (.override o.1) o.2 = order'.tree (.override o.1) o.2 ∨
      SpelledOnce o.2)
    {s t : Setting} (h : Shuffled s t) :
    Shuffled (s.writeAll (os.map (putInPlace order)))
      (t.writeAll (os.map (putInPlace order'))) := by
  induction os generalizing s t with
  | nil => exact h
  | cons o rest ih =>
      obtain ⟨ho, hrest⟩ := List.forall_mem_cons.1 halike
      refine ih hrest ((Shuffled.write (.some h) _ _).trans ?_)
      rcases ho with heq | hone
      · rw [putInPlace, putInPlace, heq]
        exact .refl _
      · have hmet := hone.shuffled (order.tree_shuffled (.override o.1) o.2)
        exact shuffled_write (shuffled_orders order order' (.override o.1) o.2) hmet _ _

/-! ## Overrides met as others are -/

open Classical in
/-- An order in which some overrides are met as others are. -/
noncomputable def TableOrder.meetAs (order : TableOrder) {os os' : List (Setting.Path × Setting)}
    (h : os.Perm os') : TableOrder where
  tree := order.tree
  tree_shuffled := order.tree_shuffled
  overrides qs := if qs = os' then order.overrides os else order.overrides qs
  overrides_perm qs := by
    split
    · next heq => exact heq ▸ (order.overrides_perm os).trans h
    · exact order.overrides_perm qs

theorem layTables_congr {order order' : TableOrder} (h : order'.tree = order.tree) (n : Nat)
    (s : Setting) (contents : List Setting) :
    layTables order' n s contents = layTables order n s contents := by
  induction contents generalizing n s with
  | nil => rfl
  | cons content rest ih => rw [layTables, layTables, h, ih]

theorem tree_meetAs (order : TableOrder) {os os' : List (Setting.Path × Setting)}
    (h : os.Perm os') (fs : List (String × Bool)) (contents : List Setting) :
    tree ⟨fs, os'⟩ (order.meetAs h) contents = tree ⟨fs, os⟩ order contents := by
  have hmeet : (order.meetAs h).tree = order.tree := rfl
  have hsame : (order.meetAs h).overrides os' = order.overrides os := if_pos rfl
  rw [tree, tree, layOverrides, layOverrides, layTables_congr hmeet, hmeet, hsame]

/-! ## The tree of independent calls -/

/-- Calls in another order leave the same tree if their sources are laid alike. -/
theorem shuffled_tree {order order' : TableOrder} {files : Files} {calls calls' : List Layer}
    (h : Independent calls) (hperm : calls.Perm calls')
    (halike : LaidAlike order order' files calls) {contents : List Setting}
    (hcontents : readFiles files (calls.filterMap file?) = .ok contents)
    (fs fs' : List (String × Bool)) :
    Shuffled (tree ⟨fs, calls.filterMap override?⟩ order contents)
      (tree ⟨fs', calls'.filterMap override?⟩ order' contents) := by
  have hlaid : Shuffled (layTables order 0 Defaults.standard.toSetting contents)
      (layTables order' 0 Defaults.standard.toSetting contents) := by
    refine shuffled_layTables (fun i content hi => ?_) (.refl _)
    rw [Nat.zero_add]
    exact halike.files contents hcontents i content hi
  have hvalues : ∀ o ∈ order.overrides (calls.filterMap override?),
      order.tree (.override o.1) o.2 = order'.tree (.override o.1) o.2 ∨ SpelledOnce o.2 := by
    intro o ho
    obtain ⟨key, hmem, hkey⟩ := exists_key ((order.overrides_perm _).mem_iff.1 ho)
    rw [hkey]
    exact halike.overrides key o.2 hmem
  have hmet : (order.overrides (calls.filterMap override?)).Perm
      (order'.overrides (calls'.filterMap override?)) :=
    (order.overrides_perm _).trans ((hperm.filterMap _).trans (order'.overrides_perm _).symm)
  rw [tree, tree, layOverrides_eq, layOverrides_eq]
  exact (shuffled_writeAll_map hvalues hlaid).trans
    (shuffled_writeAll_of_perm (hmet.map _) (allApart_putInPlace h.overrides_apart order order') _)

/-- What an override sets is in the tree. -/
theorem find?_tree (order : TableOrder) {calls : List Layer} (h : Independent calls)
    {key : String} {value leaf : Setting} (hmem : .override key value ∈ calls) {ks : List String}
    (hsets : Sets value ks leaf) (contents : List Setting) (fs : List (String × Bool)) :
    (tree ⟨fs, calls.filterMap override?⟩ order contents).find? (way key ++ ks) = some leaf := by
  have hcall : (plainPath key, value) ∈ calls.filterMap override? :=
    List.mem_filterMap.2 ⟨_, hmem, rfl⟩
  have hput : putInPlace order (plainPath key, value) ∈
      (order.overrides (calls.filterMap override?)).map (putInPlace order) :=
    List.mem_map_of_mem ((order.overrides_perm _).mem_iff.2 hcall)
  have hmet := order.tree_shuffled (.override (plainPath key)) value
  have hapart := allApart_putInPlace h.overrides_apart order order
  rw [tree, layOverrides_eq, ← pathWay_plainPath]
  exact find?_writeAll hapart hput (hsets.shuffled hmet) _

/-! ## Files that are nowhere -/

/-- There is no file under a path, and none with the extension added. -/
def Absent (files : Files) (path : String) : Prop :=
  files.file? path = none ∧
    ∀ other, withExtension path "toml" = some other → files.file? other = none

theorem readFile_absent {files : Files} {path : String} (h : Absent files path) :
    readFile files path false = .ok none := by
  have hlocate : locate files path = none := by
    rw [locate, h.1]
    cases hother : withExtension path "toml" with
    | none => rfl
    | some other => exact h.2 other hother
  rw [readFile, hlocate]
  rfl

theorem readFiles_absent {files : Files} {path : String} (h : Absent files path)
    (xs ys : List (String × Bool)) :
    readFiles files (xs ++ (path, false) :: ys) = readFiles files (xs ++ ys) := by
  induction xs with
  | nil =>
      rw [List.nil_append, readFiles, readFile_absent h, except_ok_bind]
      exact bind_pure _
  | cons x rest ih =>
      obtain ⟨path', required⟩ := x
      rw [List.cons_append, List.cons_append, readFiles, readFiles, ih]

theorem foldlM_add_files (calls : List Layer) (fs : List (String × Bool)) (l : Layers) :
    calls.foldlM add { l with files := fs ++ l.files } =
      (calls.foldlM add l).map fun m => { m with files := fs ++ m.files } := by
  induction calls generalizing l with
  | nil => rfl
  | cons call rest ih =>
      rw [List.foldlM_cons, List.foldlM_cons, except_map_bind]
      cases call with
      | file path required =>
          simp only [add, except_ok_bind, List.append_assoc]
          exact ih { l with files := l.files ++ [(path, required)] }
      | override key value =>
          rw [add, add]
          cases Setting.Path.read key with
          | none => rfl
          | some path => exact ih { l with overrides := addOverride path value l.overrides }

/-- Files named before some calls stand before the files of the calls. -/
theorem foldlM_add_eq (calls : List Layer) (l : Layers) :
    calls.foldlM add l =
      (calls.foldlM add ⟨[], l.overrides⟩).map fun m => ⟨l.files ++ m.files, m.overrides⟩ := by
  have hfiles := foldlM_add_files calls l.files ⟨[], l.overrides⟩
  rwa [List.append_nil] at hfiles

end Layers

/-! ## Defaults -/

section

open Layer Layers Defaults

variable {files : Files} {calls calls' : List Layer} {order order' : TableOrder} {d : Defaults}

theorem except_mapError_eq_ok {ε ε' α : Type} {x : Except ε α} {f : ε → ε'} {a : α} :
    x.mapError f = .ok a ↔ x = .ok a := by
  cases x with
  | error e => simp [Except.mapError]
  | ok b => simp [Except.mapError]

theorem ofLayersIn_independent (order : TableOrder) (files : Files) (h : Independent calls) :
    ofLayersIn order files calls =
      (build ⟨calls.filterMap file?, calls.filterMap override?⟩ order files).mapError
        .badDefaults := by
  rw [ofLayersIn, ofList_independent h]

theorem ofLayersIn_eq_ok (h : Independent calls) :
    ofLayersIn order files calls = .ok d ↔
      ∃ contents, readFiles files (calls.filterMap file?) = .ok contents ∧
        ofSetting (order.tree .result
          (tree ⟨calls.filterMap file?, calls.filterMap override?⟩ order contents)) = .ok d := by
  rw [ofLayersIn_independent order files h, except_mapError_eq_ok, build, except_bind_eq_ok]

/-- The overrides of calls in another order can be met in the order in which those of the calls are
met, and then nothing is different. -/
theorem exists_order (order : TableOrder) (files : Files) (h : Independent calls)
    (hperm : calls.Perm calls') (hfiles : calls'.filterMap file? = calls.filterMap file?) :
    ∃ order', ofLayersIn order' files calls' = ofLayersIn order files calls := by
  have htree := tree_meetAs order (hperm.filterMap override?) (calls.filterMap file?)
  refine ⟨order.meetAs (hperm.filterMap override?), ?_⟩
  rw [ofLayersIn_independent _ _ h, ofLayersIn_independent _ _ (h.perm hperm), hfiles]
  simp only [build, htree]
  rfl

/-- A record that comes out of calls comes out of them in another order too. -/
theorem ofLayersIn_of_perm (h : Independent calls) (hperm : calls.Perm calls')
    (hfiles : calls'.filterMap file? = calls.filterMap file?)
    (halike : LaidAlike order order' files calls) :
    ofLayersIn order files calls = .ok d ↔ ofLayersIn order' files calls' = .ok d := by
  rw [ofLayersIn_eq_ok h, ofLayersIn_eq_ok (h.perm hperm), hfiles]
  refine exists_congr fun contents => and_congr_right fun hcontents => ?_
  have htree := shuffled_tree h hperm halike hcontents (calls.filterMap file?)
    (calls.filterMap file?)
  have hmet := (order.tree_shuffled .result _).symm.trans
    (htree.trans (order'.tree_shuffled .result _))
  exact ⟨stable_ofSetting _ _ d hmet, stable_ofSetting _ _ d hmet.symm⟩

theorem convert_of_override (h : Independent calls) (hd : ofLayersIn order files calls = .ok d)
    {key : String} {value leaf : Setting} (hmem : .override key value ∈ calls) {ks : List String}
    (hsets : Sets value ks leaf) {place : Place} (hplace : place.way = way key ++ ks) :
    place.convert leaf = .ok (place.get d) := by
  obtain ⟨contents, -, hread⟩ := (ofLayersIn_eq_ok h).1 hd
  have hfind := find?_tree order h hmem hsets contents (calls.filterMap file?)
  refine Place.convert_of_find? hread place ?_
  rw [hplace]
  exact (order.tree_shuffled .result _).find?_plain hfind hsets.isTable_eq

theorem ofLayersIn_absent (order : TableOrder) {path : String} (h : Absent files path)
    (before after : List Layer) :
    ofLayersIn order files (before ++ .file path false :: after) =
      ofLayersIn order files (before ++ after) := by
  rw [ofLayersIn, ofLayersIn, ofList, ofList, List.foldlM_append, List.foldlM_append]
  cases before.foldlM add empty with
  | error e => rfl
  | ok l =>
      rw [except_ok_bind, except_ok_bind, List.foldlM_cons, add, except_ok_bind,
        foldlM_add_eq after, foldlM_add_eq after l]
      cases after.foldlM add ⟨[], l.overrides⟩ with
      | error e => rfl
      | ok m =>
          have hread := readFiles_absent h l.files m.files
          rw [← List.singleton_append, ← List.append_assoc] at hread
          simp only [Except.map, build, hread]
          rfl

/-- Without calls the built-in record comes out. -/
theorem ofLayersIn_nil (order : TableOrder) (files : Files) :
    ofLayersIn order files [] = .ok .standard := by
  have hnone : order.overrides [] = [] := List.perm_nil.1 (order.overrides_perm [])
  have hmet := order.tree_shuffled .result standard.toSetting
  have hread := stable_ofSetting _ _ _ hmet (ofSetting_toSetting standard)
  show (ofSetting (order.tree .result ((order.overrides []).foldl _ _))).mapError _ = _
  rw [hnone]
  exact congrArg (Except.mapError Error.badDefaults) hread

/-- What some calls can come to: a record or an error, under some order of the tables. -/
def Defaults.Outcome (files : Files) (calls : List Layer) (r : Except Error Defaults) : Prop :=
  ∃ order, ofLayersIn order files calls = r

theorem outcome_of_perm (h : Independent calls) (hperm : calls.Perm calls')
    (hfiles : calls'.filterMap file? = calls.filterMap file?) {r : Except Error Defaults}
    (hr : Outcome files calls r) : Outcome files calls' r := by
  obtain ⟨order, hr⟩ := hr
  obtain ⟨order', hsame⟩ := exists_order order files h hperm hfiles
  exact ⟨order', hsame.trans hr⟩

/-- Files that cannot be read fail before any table is gone through. -/
theorem ofLayersIn_of_readFiles (h : Independent calls) {e : SettingsError}
    (he : readFiles files (calls.filterMap file?) = .error e) (order : TableOrder) :
    ofLayersIn order files calls = .error (.badDefaults e) := by
  rw [ofLayersIn_independent order files h, build, he]
  rfl

/-- The keys of a table and of its tables, and whether there are tables further down. -/
def keysBelow (es : List (String × Setting)) : List (String × List (String × Bool)) :=
  es.map fun e => (e.1, e.2.entries.map fun f => (f.1, f.2.isTable))

theorem exists_domain_file : ∃ es, Toml.read "[grid]\ndomain = \"full\"\n" = some es ∧
    Unambiguous (.table es) := by
  have hkeys : (Toml.read "[grid]\ndomain = \"full\"\n").map keysBelow =
      some [("grid", [("domain", false)])] := by
    decide +kernel
  obtain ⟨es, hread, hkeys⟩ := Option.map_eq_some_iff.1 hkeys
  obtain ⟨⟨key, v⟩, rfl, hgrid⟩ := List.map_eq_singleton_iff.1 hkeys
  obtain ⟨rfl, hentries⟩ := Prod.mk.inj hgrid
  obtain ⟨⟨key, leaf⟩, hv, hdomain⟩ := List.map_eq_singleton_iff.1 hentries
  obtain ⟨rfl, hleaf⟩ := Prod.mk.inj hdomain
  refine ⟨_, hread, .table (by simp) ?_, ?_⟩
  · intro e he
    cases List.mem_singleton.1 he
    cases v with
    | table es =>
        cases hv
        refine .table (by simp) fun e he => ?_
        cases List.mem_singleton.1 he
        exact .plain hleaf
    | null | flag | integer | real | text | list => exact .plain rfl
  · intro key hkey path hpath
    cases List.mem_singleton.1 hkey
    have hread : Setting.Path.read "grid" = some ⟨"grid", []⟩ := by decide +kernel
    cases hread.symm.trans hpath
    rfl

end

end GridSetup
