import GridSetup.Layers
import GridSetup.Proofs.Parameter.Name
import GridSetup.Proofs.Resolution.Stages
import GridSetup.Proofs.Settings.Assignment

/-!
# Calls for layers

The keys of overrides are plain here: keys with points between them and no
indices. An index counts the items of a list that is there when the override is
put in place, so two overrides of items can see each other.

A plain key leads through tables only, and assigning at its path is `Setting.write`
along its way. If no override goes to a place on the way to that of another, no two
have the same path, and gathering the calls keeps all of them, each kind in the
order in which it was called (`Layers.ofList_independent`).
-/

namespace GridSetup

open Setting

/-! ## Plain keys of overrides -/

namespace Layer

/-- A key of an override that is identifiers with points between them. -/
def Dotted (key : String) : Prop :=
  ∀ part ∈ key.toList.splitOn '.', part ≠ [] ∧ part.all Setting.Path.isKeyChar = true

instance (key : String) : Decidable (Dotted key) :=
  inferInstanceAs (Decidable (∀ part ∈ _, _))

/-- The identifiers between the points of a key. -/
def parts (key : String) : List String :=
  (key.toList.splitOn '.').map String.ofList

/-- The way that a plain key describes, in the form in which keys are compared. -/
def way (key : String) : List String :=
  (parts key).map foldKey

/-- The path of a plain key. -/
def plainPath (key : String) : Setting.Path :=
  ⟨(parts key).headD "", (parts key).tail.map .entry⟩

theorem parts_ne_nil (key : String) : parts key ≠ [] := by
  rw [parts, ne_eq, List.map_eq_nil_iff]
  exact List.splitOn_ne_nil _ _

theorem intercalate_points (first : List Char) (rest : List (List Char)) :
    ['.'].intercalate (first :: rest) = first ++ rest.flatMap ('.' :: ·) := by
  induction rest generalizing first with
  | nil => simp
  | cons next rest ih =>
      rw [List.intercalate_cons_cons, ih, List.flatMap_cons]
      simp

/-- What follows an identifier in a plain key is no part of it. -/
theorem head?_points (rest : List (List Char)) :
    ∀ c ∈ (rest.flatMap ('.' :: ·)).head?, Setting.Path.isKeyChar c = false := by
  intro c hc
  cases rest with
  | nil => cases hc
  | cons part rest =>
      cases hc
      decide

theorem splitKey_append {part : List Char} (hne : part ≠ [])
    (hchars : part.all Setting.Path.isKeyChar = true) (rest : List (List Char)) :
    Setting.Path.splitKey (part ++ rest.flatMap ('.' :: ·)) =
      some (String.ofList part, rest.flatMap ('.' :: ·)) := by
  obtain ⟨htake, hdrop⟩ :=
    Parameter.takeWhile_append_stop (List.all_eq_true.1 hchars) (head?_points rest)
  rw [Setting.Path.splitKey, htake, hdrop]
  cases part with
  | nil => exact absurd rfl hne
  | cons c part => rfl

theorem readSteps_points {rest : List (List Char)}
    (h : ∀ part ∈ rest, part ≠ [] ∧ part.all Setting.Path.isKeyChar = true) {fuel : Nat}
    (hfuel : (rest.flatMap ('.' :: ·)).length ≤ fuel) :
    Setting.Path.readSteps fuel (rest.flatMap ('.' :: ·)) =
      some (rest.map fun part => .entry (String.ofList part)) := by
  induction rest generalizing fuel with
  | nil => simp [Setting.Path.readSteps]
  | cons part rest ih =>
      obtain ⟨⟨hne, hchars⟩, hrest⟩ := List.forall_mem_cons.1 h
      rw [List.flatMap_cons, List.cons_append] at hfuel ⊢
      cases fuel with
      | zero => simp at hfuel
      | succ fuel =>
          have hlen : (rest.flatMap ('.' :: ·)).length ≤ fuel := by
            rw [List.length_cons, List.length_append] at hfuel
            omega
          rw [Setting.Path.readSteps, splitKey_append hne hchars]
          simp only [Option.bind_eq_bind, Option.bind_some, ih hrest hlen]
          rfl

theorem read_dotted {key : String} (h : Dotted key) :
    Setting.Path.read key = some (plainPath key) := by
  have hparts : ∃ first rest, key.toList.splitOn '.' = first :: rest :=
    List.exists_cons_of_ne_nil (List.splitOn_ne_nil _ _)
  obtain ⟨first, rest, hsplit⟩ := hparts
  have hkey : key.toList = first ++ rest.flatMap ('.' :: ·) := by
    rw [← intercalate_points, ← hsplit, List.intercalate_splitOn]
  rw [Dotted, hsplit] at h
  obtain ⟨⟨hne, hchars⟩, hrest⟩ := List.forall_mem_cons.1 h
  rw [Setting.Path.read, hkey, splitKey_append hne hchars]
  simp only [Option.bind_eq_bind, Option.bind_some, readSteps_points hrest (Nat.le_refl _)]
  simp [plainPath, parts, hsplit]

/-- The way that a path describes if it leads through tables only. -/
def pathWay (path : Setting.Path) : List String :=
  foldKey path.start :: path.steps.filterMap fun
    | .entry key => some (foldKey key)
    | .item _ => none

theorem pathWay_plainPath (key : String) : pathWay (plainPath key) = way key := by
  obtain ⟨first, rest, hparts⟩ := List.exists_cons_of_ne_nil (parts_ne_nil key)
  rw [pathWay, plainPath, way, hparts, List.map_cons, List.tail_cons, List.filterMap_map]
  exact congrArg (foldKey first :: ·) (List.filterMap_eq_map ▸ rfl)

theorem assignAt_plainPath (key : String) (value s : Setting) :
    s.assignAt (plainPath key) value = write value (way key) (some s) := by
  obtain ⟨first, rest, hparts⟩ := List.exists_cons_of_ne_nil (parts_ne_nil key)
  rw [assignAt, plainPath, way, hparts]
  exact assign_entries value first rest s

/-! ## What calls amount to -/

/-- The file of a call, and whether it is required. -/
def file? : Layer → Option (String × Bool)
  | .file path required => some (path, required)
  | .override _ _ => none

/-- The key of an override. -/
def key? : Layer → Option String
  | .file _ _ => none
  | .override key _ => some key

/-- The path and the value of an override. -/
def override? : Layer → Option (Setting.Path × Setting)
  | .file _ _ => none
  | .override key value => some (plainPath key, value)

/-- Calls whose overrides have plain keys, none of which leads to a place on the way to that of
another. -/
structure Independent (calls : List Layer) : Prop where
  dotted : ∀ key ∈ calls.filterMap key?, Dotted key
  apart : (calls.filterMap key?).Pairwise fun key other => Apart (way key) (way other)

theorem Independent.perm {calls calls' : List Layer} (h : Independent calls)
    (hperm : calls.Perm calls') : Independent calls' where
  dotted key hmem := h.dotted key ((hperm.filterMap _).mem_iff.2 hmem)
  apart := ((hperm.filterMap _).pairwise_iff Apart.symm).1 h.apart

theorem exists_key {calls : List Layer} {o : Setting.Path × Setting}
    (h : o ∈ calls.filterMap override?) :
    ∃ key, .override key o.2 ∈ calls ∧ o.1 = plainPath key := by
  obtain ⟨call, hcall, ho⟩ := List.mem_filterMap.1 h
  cases call with
  | file => cases ho
  | override key value =>
      cases ho
      exact ⟨key, hcall, rfl⟩

/-- Overrides go to places apart. -/
theorem Independent.overrides_apart {calls : List Layer} (h : Independent calls) :
    (calls.filterMap override?).Pairwise fun o o' => Apart (pathWay o.1) (pathWay o'.1) := by
  refine List.pairwise_filterMap.2 ?_
  refine (List.pairwise_filterMap.1 h.apart).imp fun {call call'} hapart o ho o' ho' => ?_
  cases call with
  | file => cases ho
  | override key value =>
      cases call' with
      | file => cases ho'
      | override key' value' =>
          cases ho
          cases ho'
          rw [pathWay_plainPath, pathWay_plainPath]
          exact hapart _ rfl _ rfl

/-- Overrides at places apart have different paths. -/
theorem Independent.nodup {calls : List Layer} (h : Independent calls) :
    ((calls.filterMap override?).map Prod.fst).Nodup := by
  refine List.pairwise_map.2 (h.overrides_apart.imp fun {o o'} hapart hpath => ?_)
  rw [hpath] at hapart
  exact hapart.1 (List.prefix_refl _)

end Layer

namespace Layers

open Layer

theorem addOverride_of_notMem {path : Setting.Path} {value : Setting}
    {overrides : List (Setting.Path × Setting)} (h : path ∉ overrides.map Prod.fst) :
    addOverride path value overrides = overrides ++ [(path, value)] := by
  induction overrides with
  | nil => rfl
  | cons o rest ih =>
      obtain ⟨p, v⟩ := o
      rw [List.map_cons, List.mem_cons, not_or] at h
      rw [addOverride, if_neg (Ne.symm h.1), ih h.2, List.cons_append]

/-- Files and overrides are gathered apart, each in the order of their calls. -/
theorem foldlM_add {calls : List Layer} (hdotted : ∀ key ∈ calls.filterMap key?, Dotted key)
    {l : Layers}
    (hnodup : ((l.overrides ++ calls.filterMap override?).map Prod.fst).Nodup) :
    calls.foldlM add l =
      .ok ⟨l.files ++ calls.filterMap file?, l.overrides ++ calls.filterMap override?⟩ := by
  induction calls generalizing l with
  | nil =>
      simp only [List.foldlM_nil, List.filterMap_nil, List.append_nil]
      rfl
  | cons call rest ih =>
      rw [List.foldlM_cons]
      cases call with
      | file path required =>
          have hfiles : l.files ++ (Layer.file path required :: rest).filterMap file? =
              (l.files ++ [(path, required)]) ++ rest.filterMap file? :=
            (List.append_assoc l.files [_] _).symm
          rw [hfiles]
          exact ih hdotted hnodup
      | override key value =>
          obtain ⟨hkey, hrest⟩ := List.forall_mem_cons.1 hdotted
          have hsplit : l.overrides ++ (Layer.override key value :: rest).filterMap override? =
              (l.overrides ++ [(plainPath key, value)]) ++ rest.filterMap override? :=
            (List.append_assoc l.overrides [_] _).symm
          rw [hsplit] at hnodup ⊢
          have hnew : plainPath key ∉ l.overrides.map Prod.fst := by
            rw [List.map_append, List.map_append] at hnodup
            have hdisjoint := List.disjoint_of_nodup_append (List.Nodup.of_append_left hnodup)
            exact fun hmem => hdisjoint hmem List.mem_cons_self
          rw [add, read_dotted hkey]
          simp only [except_ok_bind, addOverride_of_notMem hnew]
          exact ih hrest hnodup

theorem ofList_independent {calls : List Layer} (h : Independent calls) :
    ofList calls = .ok ⟨calls.filterMap file?, calls.filterMap override?⟩ := by
  rw [ofList, foldlM_add h.dotted]
  · rfl
  · exact h.nodup

end Layers

end GridSetup
