import GridSetup.Parameters
import GridSetup.Proofs.Parameter.Name
import GridSetup.Proofs.Parameter.Value

/-!
# What a line sets

The blanks of a line, the case of its name, the quotes and the outer blanks of its value are all
forgotten by the time a grid is made. What is left is `Line.entries?`: nothing for a comment or a
blank line, a key and a tidy value for an assignment. Two relations say when it is which. `Assigns`
is the grammar of an assignment read as a statement about the entry it makes, and `Skipped` looks at
the first character that is not blank. No line is both, and a line that is neither is malformed.

The scanner is unfolded here and nowhere else. Statements about edited lines go through the two
relations, where an edit is a matter of where a text is cut.
-/

namespace GridSetup.Parameter

open GridSetup.Text

theorem foldKey_ofList (cs : List Char) :
    foldKey (String.ofList cs) = String.ofList (lowercase cs) := by
  rw [foldKey, String.toList_ofList]

theorem foldKey_foldKey (key : String) : foldKey (foldKey key) = foldKey key := by
  have h : foldKey key = String.ofList (lowercase key.toList) := rfl
  rw [h, foldKey_ofList, lowercase_lowercase]

/-! ## Assignments -/

/-- What may follow a name on its line is no part of the name. -/
theorem head?_blank_sign {w after : List Char} (hw : AllBlank w) :
    ∀ c ∈ (w ++ '=' :: after).head?, isWord c = false ∧ c ≠ ':' := by
  intro c hc
  cases w with
  | nil =>
      obtain rfl : '=' = c := by simpa using hc
      decide +kernel
  | cons d ds =>
      obtain rfl : d = c := by simpa using hc
      have hblank : isBlank d = true := hw d List.mem_cons_self
      constructor
      · rw [Bool.eq_false_iff]
        intro hword
        rw [isBlank_of_isWord hword] at hblank
        cases hblank
      · rintro rfl
        revert hblank
        decide

theorem splitAssignment_eq_some_iff {cs name value : List Char} :
    splitAssignment cs = some (name, value) ↔ IsName name ∧ ∃ w after, AllBlank w ∧
      cs = name ++ (w ++ '=' :: after) ∧ value = trimStart after ∧ '\n' ∉ value := by
  have hsign : isBlank '=' = false := by decide
  constructor
  · intro h
    rw [splitAssignment] at h
    split at h
    · cases h
    · next n rest hname =>
        obtain ⟨hcs, hn, -⟩ := splitName_eq_some hname
        split at h
        · next after htrim =>
            simp only [] at h
            split at h
            · cases h
            · next hfeed =>
                obtain ⟨rfl, rfl⟩ := Prod.mk.inj (Option.some.inj h)
                obtain ⟨w, hw, hrest⟩ := exists_blank_append_trimStart rest
                rw [htrim] at hrest
                refine ⟨hn, w, after, hw, by rw [hcs, hrest], rfl, ?_⟩
                simpa using hfeed
        · cases h
  · rintro ⟨hn, w, after, hw, rfl, rfl, hfeed⟩
    rw [splitAssignment, splitName_append hn (head?_blank_sign hw)]
    simp only [trimStart_append hw, trimStart_cons_of_not_blank hsign]
    rw [if_neg (by simpa using hfeed)]

/-! ## Entries -/

/-- The entries that a line makes, at most one. -/
def Line.entries : Line → List (String × String)
  | .assignment key value => [(foldKey key, tidy value)]
  | .comment => []
  | .blank => []

/-- The entries that a line makes; none if it is malformed. -/
def Line.entries? (cs : List Char) : Option (List (String × String)) :=
  (Line.ofChars? cs).map Line.entries

/-- What stands before the sign of an assignment: a name, with blanks around it. -/
structure Heads (name head : List Char) : Prop where
  isName : IsName name
  blanks : ∃ w w', AllBlank w ∧ AllBlank w' ∧ head = w ++ (name ++ w')

/-- An assignment and the entry it makes. -/
def Assigns (cs : List Char) (e : String × String) : Prop :=
  ∃ name head after, Heads name head ∧ cs = head ++ '=' :: after ∧ '\n' ∉ trimStart after ∧
    e = (String.ofList (lowercase name), String.ofList (tidyChars after))

/-- A line that makes no entry: blank, or a comment. -/
def Skipped (cs : List Char) : Prop :=
  ∀ c ∈ (trimStart cs).head?, c = '#' ∨ c = '!'

theorem IsName.trimStart_append {name : List Char} (h : IsName name) (rest : List Char) :
    trimStart (name ++ rest) = name ++ rest := by
  obtain ⟨c, tail, rfl, hc⟩ := h.exists_cons
  exact trimStart_cons_of_not_blank (isBlank_of_isWord hc)

theorem IsName.not_skipped {w name : List Char} (hw : AllBlank w) (h : IsName name)
    (rest : List Char) : ¬ Skipped (w ++ (name ++ rest)) := by
  intro hs
  rw [Skipped, Text.trimStart_append hw, h.trimStart_append] at hs
  obtain ⟨c, tail, rfl, hc⟩ := h.exists_cons
  have hmark : ∀ c ∈ ['#', '!'], isWord c = false := forall_mem_of_all (by decide +kernel)
  have hword : isWord c = false := by
    rcases hs c rfl with rfl | rfl
    · exact hmark _ (by simp)
    · exact hmark _ (by simp)
  rw [hc] at hword
  cases hword

theorem Line.entries?_of_skipped {cs : List Char} (h : Skipped cs) :
    Line.entries? cs = some [] := by
  rw [Line.entries?, Line.ofChars?]
  rw [Skipped] at h
  cases ht : trimStart cs with
  | nil => rfl
  | cons c rest =>
      rw [ht] at h
      simp only [if_pos (h c rfl)]
      rfl

theorem Line.ofChars?_of_name {w name rest : List Char} (hw : AllBlank w) (h : IsName name) :
    Line.ofChars? (w ++ (name ++ rest)) = (splitAssignment (name ++ rest)).map fun (n, v) =>
      .assignment (foldKey (String.ofList n)) (String.ofList v) := by
  have hns := IsName.not_skipped hw h rest
  rw [Skipped, Text.trimStart_append hw, h.trimStart_append] at hns
  rw [Line.ofChars?, Text.trimStart_append hw, h.trimStart_append]
  obtain ⟨c, tail, rfl, hc⟩ := h.exists_cons
  rw [List.cons_append] at hns ⊢
  have hmark : ¬ (c = '#' ∨ c = '!') := fun hm => hns fun d hd => by
    obtain rfl : c = d := by simpa using hd
    exact hm
  simp only [if_neg hmark]

theorem Line.ofChars?_assignment {name head after : List Char} (h : Heads name head)
    (hfeed : '\n' ∉ trimStart after) :
    Line.ofChars? (head ++ '=' :: after) =
      some (.assignment (foldKey (String.ofList name)) (String.ofList (trimStart after))) := by
  obtain ⟨hn, w, w', hw, hw', rfl⟩ := h
  rw [List.append_assoc, List.append_assoc, Line.ofChars?_of_name hw hn,
    splitAssignment_eq_some_iff.2 ⟨hn, w', after, hw', rfl, rfl, hfeed⟩]
  rfl

theorem Line.entries?_of_assigns {cs : List Char} {e : String × String} (h : Assigns cs e) :
    Line.entries? cs = some [e] := by
  obtain ⟨name, head, after, hhead, rfl, hfeed, rfl⟩ := h
  rw [Line.entries?, Line.ofChars?_assignment hhead hfeed]
  show some [(foldKey (foldKey (String.ofList name)), tidy (String.ofList (trimStart after)))] = _
  rw [foldKey_foldKey, foldKey_ofList, tidy_ofList, tidyChars_trimStart]

/-- A line is skipped, or makes an entry by the grammar, or is malformed. -/
theorem Line.entries?_cases (cs : List Char) :
    Skipped cs ∨ (∃ e, Assigns cs e) ∨ Line.ofChars? cs = none := by
  rw [Skipped, Line.ofChars?]
  cases ht : trimStart cs with
  | nil => exact Or.inl fun c hc => by cases hc
  | cons c rest =>
      by_cases hmark : c = '#' ∨ c = '!'
      · refine Or.inl fun d hd => ?_
        obtain rfl : c = d := by simpa using hd
        exact hmark
      · right
        simp only [if_neg hmark]
        cases hs : splitAssignment (c :: rest) with
        | none => exact Or.inr rfl
        | some split =>
            obtain ⟨name, value⟩ := split
            obtain ⟨hn, w', after, hw', hcs, rfl, hfeed⟩ := splitAssignment_eq_some_iff.1 hs
            obtain ⟨w, hw, hcut⟩ := exists_blank_append_trimStart cs
            rw [ht, hcs] at hcut
            exact Or.inl ⟨_, name, w ++ (name ++ w'), after, ⟨hn, w, w', hw, hw', rfl⟩,
              by simpa using hcut, hfeed, rfl⟩

theorem Line.assigns_iff {cs : List Char} {e : String × String} :
    Line.entries? cs = some [e] ↔ Assigns cs e := by
  constructor
  · intro h
    rcases Line.entries?_cases cs with hs | ⟨e', he'⟩ | hnone
    · rw [Line.entries?_of_skipped hs] at h
      cases h
    · rw [Line.entries?_of_assigns he'] at h
      cases h
      exact he'
    · rw [Line.entries?, hnone] at h
      cases h
  · exact Line.entries?_of_assigns

/-- Two lines that agree in what they assign and in being skipped make the same entries. -/
theorem Line.entries?_congr {a b : List Char} (hassigns : ∀ e, Assigns a e ↔ Assigns b e)
    (hskipped : Skipped a ↔ Skipped b) : Line.entries? a = Line.entries? b := by
  rcases Line.entries?_cases a with hs | ⟨e, he⟩ | hnone
  · rw [Line.entries?_of_skipped hs, Line.entries?_of_skipped (hskipped.1 hs)]
  · rw [Line.entries?_of_assigns he, Line.entries?_of_assigns ((hassigns e).1 he)]
  · rcases Line.entries?_cases b with hs | ⟨e, he⟩ | hnone'
    · rw [Line.entries?_of_skipped (hskipped.2 hs), Line.entries?_of_skipped hs]
    · rw [Line.entries?_of_assigns ((hassigns e).2 he), Line.entries?_of_assigns he]
    · rw [Line.entries?, Line.entries?, hnone, hnone']

/-! ## Blanks at the ends of a line -/

theorem Line.entries?_blank_append {ws : List Char} (h : AllBlank ws) (cs : List Char) :
    Line.entries? (ws ++ cs) = Line.entries? cs := by
  rw [Line.entries?, Line.ofChars?, trimStart_append h, Line.entries?, Line.ofChars?]

theorem feed_mem_trimStart_append {ws : List Char} (h : AllBlank ws) (hfeed : '\n' ∉ ws)
    (cs : List Char) : '\n' ∈ trimStart (cs ++ ws) ↔ '\n' ∈ trimStart cs := by
  by_cases hcs : AllBlank cs
  · rw [trimStart_append hcs, trimStart_eq_nil.2 h, trimStart_eq_nil.2 hcs]
  · rw [trimStart_append_of_not_allBlank hcs, List.mem_append]
    exact ⟨fun hor => hor.resolve_right hfeed, Or.inl⟩

theorem skipped_append_blank {ws : List Char} (h : AllBlank ws) (cs : List Char) :
    Skipped (cs ++ ws) ↔ Skipped cs := by
  by_cases hcs : AllBlank cs
  · rw [Skipped, Skipped, trimStart_append hcs, trimStart_eq_nil.2 h, trimStart_eq_nil.2 hcs]
  · rw [Skipped, Skipped, trimStart_append_of_not_allBlank hcs]
    cases ht : trimStart cs with
    | nil => exact absurd (trimStart_eq_nil.1 ht) hcs
    | cons c rest => rfl

theorem sign_notMem_blank {ws : List Char} (h : AllBlank ws) : '=' ∉ ws := by
  intro hmem
  have hsign := h '=' hmem
  revert hsign
  decide

/-- The sign is no blank, so where a line ends in blanks the sign stands before them. -/
theorem cut_append_blank {cs ws pre after : List Char} (h : AllBlank ws)
    (hcut : cs ++ ws = pre ++ '=' :: after) : ∃ t, cs = pre ++ '=' :: t ∧ after = t ++ ws := by
  have hsign := sign_notMem_blank h
  rcases List.append_eq_append_iff.1 hcut with ⟨t, -, ht⟩ | ⟨t, hcs, ht⟩
  · exact absurd (by rw [ht]; simp) hsign
  · cases t with
    | nil => exact absurd (by rw [← List.nil_append ws, ← ht]; simp) hsign
    | cons c t =>
        obtain ⟨hc, hafter⟩ := List.cons.inj ht
        exact ⟨t, by rw [hcs, ← hc], hafter⟩

theorem assigns_append_blank {ws : List Char} (h : AllBlank ws) (hfeed : '\n' ∉ ws)
    (cs : List Char) (e : String × String) : Assigns (cs ++ ws) e ↔ Assigns cs e := by
  constructor
  · rintro ⟨name, head, after, hhead, hcs, hn, rfl⟩
    obtain ⟨t, rfl, rfl⟩ := cut_append_blank h hcs
    rw [feed_mem_trimStart_append h hfeed] at hn
    refine ⟨name, head, t, hhead, rfl, hn, ?_⟩
    rw [tidyChars_append_blank h]
  · rintro ⟨name, head, after, hhead, rfl, hn, rfl⟩
    refine ⟨name, head, after ++ ws, hhead, by simp, ?_, ?_⟩
    · rwa [feed_mem_trimStart_append h hfeed]
    · rw [tidyChars_append_blank h]

theorem Line.entries?_append_blank {ws : List Char} (h : AllBlank ws) (hfeed : '\n' ∉ ws)
    (cs : List Char) : Line.entries? (cs ++ ws) = Line.entries? cs :=
  Line.entries?_congr (assigns_append_blank h hfeed cs) (skipped_append_blank h cs)

/-! ## Where an assignment is cut -/

/-- A line that the scanner takes as an assignment to a key. -/
def AssignsTo (cs : List Char) (key : String) : Prop :=
  ∃ value, Line.ofChars? cs = some (.assignment key value)

theorem AssignsTo.assigns {cs : List Char} {key : String} (h : AssignsTo cs key) :
    ∃ value, Assigns cs (key, value) := by
  obtain ⟨text, hline⟩ := h
  have hentries : Line.entries? cs = some [(foldKey key, tidy text)] := by
    rw [Line.entries?, hline]
    rfl
  have hassigns := Line.assigns_iff.1 hentries
  have hkey : foldKey key = key := by
    obtain ⟨name, head, after, hhead, hcs, hfeed, -⟩ := hassigns
    rw [hcs, Line.ofChars?_assignment hhead hfeed] at hline
    cases hline
    exact foldKey_foldKey _
  rw [hkey] at hassigns
  exact ⟨_, hassigns⟩

theorem Heads.sign_notMem {name head : List Char} (h : Heads name head) : '=' ∉ head := by
  obtain ⟨hn, w, w', hw, hw', rfl⟩ := h
  have hname : '=' ∉ name := hn.notMem (by decide +kernel)
  intro hmem
  rcases List.mem_append.1 hmem with hmem | hmem
  · exact sign_notMem_blank hw hmem
  · rcases List.mem_append.1 hmem with hmem | hmem
    · exact hname hmem
    · exact sign_notMem_blank hw' hmem

theorem Heads.trim_eq {name head : List Char} (h : Heads name head) : trim head = name := by
  obtain ⟨hn, w, w', hw, hw', rfl⟩ := h
  rw [trim_blank_append hw, trim_append_blank hw', hn.trim_eq]

end GridSetup.Parameter
