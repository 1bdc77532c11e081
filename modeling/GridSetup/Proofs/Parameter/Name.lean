import GridSetup.Parameter.Line
import GridSetup.Proofs.Text.AsciiCase
import GridSetup.Proofs.Text.Blank

/-!
# Names

A name is two runs of word characters with two colons between them, or the keyword for the active
thorns. `splitName` finds a name at the start of a text and takes all of it; what comes after a name
on a line is a blank or an equals sign, and neither can be mistaken for more of the name.

The key under which a value is stored is the name in lower case, and it is a name again. For a pair
that is the table's doing. For the keyword it takes a look at the letters that fold to it, one of
which, the long s, is in lower case already and stays itself.
-/

namespace GridSetup.Parameter

open GridSetup.Text

/-- What may stand before the equals sign of an assignment. -/
inductive IsName : List Char → Prop
  | pair {a b : List Char} (ha : a ≠ []) (hb : b ≠ []) (hwa : ∀ c ∈ a, isWord c = true)
      (hwb : ∀ c ∈ b, isWord c = true) : IsName (a ++ ':' :: ':' :: b)
  | thorns {w : List Char} (h : isThornsKeyword w = true) : IsName w

/-! ## Characters of a name -/

theorem blanks_apart_words :
    blankSet.ranges.all (fun b => wordSet.ranges.all fun w => w.2.blt b.1 || b.2.blt w.1) = true := by
  decide +kernel

theorem isBlank_of_isWord {c : Char} (h : isWord c = true) : isBlank c = false := by
  rw [Bool.eq_false_iff]
  intro hb
  obtain ⟨w, hw, hw₁, hw₂⟩ := CharSet.containsCode_iff.1 h
  obtain ⟨b, hbm, hb₁, hb₂⟩ := CharSet.containsCode_iff.1 hb
  have hapart := List.all_eq_true.1 (List.all_eq_true.1 blanks_apart_words b hbm) w hw
  rw [Bool.or_eq_true, Nat.blt_eq, Nat.blt_eq] at hapart
  omega

/-- The characters that fold to a letter of the keyword. -/
def keywordLetters : List Char :=
  ['a', 'c', 't', 'i', 'v', 'e', 'h', 'o', 'r', 'n', 's', 'A', 'C', 'T', 'I', 'V', 'E', 'H', 'O',
    'R', 'N', 'S', 'ſ']

theorem mem_keywordLetters {c : Char} (h : foldKeywordChar c ∈ activeThornsKey.toList) :
    c ∈ keywordLetters := by
  rw [foldKeywordChar] at h
  split at h
  · next hs =>
      rw [hs]
      decide
  · by_cases hc : 'A' ≤ c ∧ c ≤ 'Z'
    · have hall : ∀ c ∈ capitals, asciiLowerChar c ∈ activeThornsKey.toList →
          c ∈ keywordLetters := forall_mem_of_all (by decide)
      exact hall c (mem_capitals hc) h
    · have hall : ∀ c ∈ activeThornsKey.toList, c ∈ keywordLetters :=
        forall_mem_of_all (by decide)
      rw [asciiLowerChar, if_neg hc] at h
      exact hall c h

theorem mem_keywordLetters_of_isThornsKeyword {w : List Char} (h : isThornsKeyword w = true) :
    ∀ c ∈ w, c ∈ keywordLetters := by
  intro c hc
  have hw : w.map foldKeywordChar = activeThornsKey.toList := by simpa [isThornsKeyword] using h
  apply mem_keywordLetters
  rw [← hw]
  exact List.mem_map_of_mem hc

theorem isWord_of_mem_keywordLetters : ∀ c ∈ keywordLetters, isWord c = true :=
  forall_mem_of_all (by decide)

theorem IsName.mem {name : List Char} (h : IsName name) :
    ∀ c ∈ name, isWord c = true ∨ c = ':' := by
  intro c hc
  cases h with
  | pair ha hb hwa hwb =>
      rcases List.mem_append.1 hc with hc | hc
      · exact Or.inl (hwa c hc)
      · rcases List.mem_cons.1 hc with hc | hc
        · exact Or.inr hc
        · rcases List.mem_cons.1 hc with hc | hc
          · exact Or.inr hc
          · exact Or.inl (hwb c hc)
  | thorns hw =>
      exact Or.inl (isWord_of_mem_keywordLetters c (mem_keywordLetters_of_isThornsKeyword hw c hc))

theorem IsName.notMem {name : List Char} (h : IsName name) {c : Char}
    (hc : isWord c = false ∧ c ≠ ':') : c ∉ name := by
  intro hmem
  rcases h.mem c hmem with hw | hcolon
  · rw [hw] at hc
    exact absurd hc.1 (by simp)
  · exact hc.2 hcolon

theorem IsName.exists_cons {name : List Char} (h : IsName name) :
    ∃ c rest, name = c :: rest ∧ isWord c = true := by
  cases h with
  | @pair a b ha hb hwa hwb =>
      obtain ⟨c, rest, rfl⟩ := List.exists_cons_of_ne_nil ha
      exact ⟨c, rest ++ ':' :: ':' :: b, rfl, hwa c List.mem_cons_self⟩
  | thorns hw =>
      cases name with
      | nil => cases hw
      | cons c rest =>
          exact ⟨c, rest, rfl, isWord_of_mem_keywordLetters c
            (mem_keywordLetters_of_isThornsKeyword hw c List.mem_cons_self)⟩

theorem IsName.exists_concat {name : List Char} (h : IsName name) :
    ∃ rest c, name = rest ++ [c] ∧ isWord c = true := by
  cases h with
  | @pair a b ha hb hwa hwb =>
      have hlast := List.dropLast_append_getLast hb
      refine ⟨a ++ ':' :: ':' :: b.dropLast, b.getLast hb, ?_, hwb _ (List.getLast_mem hb)⟩
      rw [List.append_assoc, List.cons_append, List.cons_append, hlast]
  | thorns hw =>
      have hne : name ≠ [] := by
        rintro rfl
        cases hw
      refine ⟨name.dropLast, name.getLast hne, (List.dropLast_append_getLast hne).symm, ?_⟩
      exact isWord_of_mem_keywordLetters _
        (mem_keywordLetters_of_isThornsKeyword hw _ (List.getLast_mem hne))

theorem IsName.trim_eq {name : List Char} (h : IsName name) :
    trim name = name := by
  apply trim_eq_self
  · intro c hc
    obtain ⟨d, rest, rfl, hd⟩ := h.exists_cons
    obtain rfl : d = c := by simpa using hc
    exact isBlank_of_isWord hd
  · intro c hc
    obtain ⟨rest, d, rfl, hd⟩ := h.exists_concat
    obtain rfl : d = c := by simpa using hc
    exact isBlank_of_isWord hd

/-! ## Finding a name -/

theorem takeWhile_append_stop {p : Char → Bool} {xs ys : List Char} (hx : ∀ c ∈ xs, p c = true)
    (hy : ∀ c ∈ ys.head?, p c = false) :
    (xs ++ ys).takeWhile p = xs ∧ (xs ++ ys).dropWhile p = ys := by
  rw [List.takeWhile_append_of_pos hx, List.dropWhile_append_of_pos hx]
  cases ys with
  | nil => simp
  | cons c rest => simp [hy c rfl]

/-- A text is cut at the first of its marks. -/
theorem cut_at_mark {mark : Char} {head : List Char} (h : mark ∉ head) (after : List Char) :
    (head ++ mark :: after).takeWhile (· ≠ mark) = head ∧
      (head ++ mark :: after).dropWhile (· ≠ mark) = mark :: after := by
  apply takeWhile_append_stop
  · intro c hc
    rw [decide_eq_true_eq]
    rintro rfl
    exact h hc
  · intro c hc
    obtain rfl : mark = c := by simpa using hc
    simp

theorem cut_at_mark_unique {mark : Char} {a b x y : List Char} (ha : mark ∉ a) (hb : mark ∉ b)
    (h : a ++ mark :: x = b ++ mark :: y) : a = b ∧ x = y := by
  obtain ⟨hta, hda⟩ := cut_at_mark ha x
  obtain ⟨htb, hdb⟩ := cut_at_mark hb y
  rw [h] at hta hda
  exact ⟨hta.symm.trans htb, (List.cons.inj (hda.symm.trans hdb)).2⟩

theorem splitName_append {name rest : List Char} (h : IsName name)
    (hrest : ∀ c ∈ rest.head?, isWord c = false ∧ c ≠ ':') :
    splitName (name ++ rest) = some (name, rest) := by
  have hstop : ∀ c ∈ rest.head?, isWord c = false := fun c hc => (hrest c hc).1
  cases h with
  | @pair a b ha hb hwa hwb =>
      have hcolon : ∀ c ∈ (':' :: ':' :: (b ++ rest)).head?, isWord c = false := by
        intro c hc
        obtain rfl : ':' = c := by simpa using hc
        decide +kernel
      obtain ⟨htake, hdrop⟩ := takeWhile_append_stop hwa hcolon
      obtain ⟨htakeb, hdropb⟩ := takeWhile_append_stop hwb hstop
      rw [List.append_assoc, List.cons_append, List.cons_append, splitName, htake, hdrop]
      simp only [htakeb, hdropb, if_pos (And.intro ha hb)]
  | thorns hw =>
      have hwords : ∀ c ∈ name, isWord c = true := fun c hc =>
        isWord_of_mem_keywordLetters c (mem_keywordLetters_of_isThornsKeyword hw c hc)
      obtain ⟨htake, hdrop⟩ := takeWhile_append_stop hwords hstop
      rw [splitName, htake, hdrop]
      split
      · next after hafter => exact absurd rfl (hrest ':' (by simp)).2
      · rw [if_pos hw]

theorem head?_dropWhile {p : Char → Bool} {cs : List Char} :
    ∀ c ∈ (cs.dropWhile p).head?, p c = false := by
  intro c hc
  have hnot := List.head?_dropWhile_not p cs
  rw [hc] at hnot
  exact hnot

theorem splitName_eq_some {cs name rest : List Char} (h : splitName cs = some (name, rest)) :
    cs = name ++ rest ∧ IsName name ∧ ∀ c ∈ rest.head?, isWord c = false := by
  have htake : ∀ {cs : List Char}, ∀ c ∈ cs.takeWhile isWord, isWord c = true :=
    fun c hc => List.mem_takeWhile_imp hc
  have hcut : ∀ cs : List Char, cs = cs.takeWhile isWord ++ cs.dropWhile isWord :=
    fun cs => List.takeWhile_append_dropWhile.symm
  rw [splitName] at h
  split at h
  · next after hafter =>
      simp only [] at h
      split at h
      · next hne =>
          obtain ⟨rfl, rfl⟩ := Prod.mk.inj (Option.some.inj h)
          refine ⟨?_, .pair hne.1 hne.2 htake htake, head?_dropWhile⟩
          rw [List.append_assoc, List.cons_append, List.cons_append, ← hcut after, ← hafter]
          exact hcut cs
      · cases h
  · split at h
    · next hkey =>
        obtain ⟨rfl, rfl⟩ := Prod.mk.inj (Option.some.inj h)
        exact ⟨hcut cs, .thorns hkey, head?_dropWhile⟩
    · cases h

/-! ## Names in lower case -/

theorem lowercase_thorns {w : List Char} (h : ∀ c ∈ w, c ∈ keywordLetters) :
    lowercase w = asciiLower w := by
  have hone : ∀ c ∈ keywordLetters, c ≠ 'Σ' ∧ lowerChar c = [asciiLowerChar c] :=
    forall_mem_of_all (by decide)
  have hfrom : ∀ before, lowerFrom before w = asciiLower w := by
    induction w with
    | nil =>
        intro before
        rfl
    | cons c cs ih =>
        intro before
        obtain ⟨hsigma, hlower⟩ := hone c (h c List.mem_cons_self)
        rw [lowerFrom, lowerAt, if_neg hsigma, hlower, ih fun x hx => h x (List.mem_cons_of_mem _ hx)]
        rfl
  exact hfrom []

theorem isLower_colon : IsLower ':' := by
  decide

/-- A name in lower case is a name. -/
theorem IsName.lowercase {name : List Char} (h : IsName name) : IsName (lowercase name) := by
  cases h with
  | @pair a b ha hb hwa hwb =>
      rw [Text.lowercase, lowerFrom_append, lowerFrom, lowerFrom, lowerAt_of_isLower isLower_colon,
        lowerAt_of_isLower isLower_colon, lowerFrom_eq_lowerBetween]
      exact .pair (lowerBetween_ne_nil ha) (lowerBetween_ne_nil hb)
        (isWord_of_mem_lowerBetween hwa) (isWord_of_mem_lowerBetween hwb)
  | thorns hw =>
      have hletters := mem_keywordLetters_of_isThornsKeyword hw
      have hfold : ∀ c ∈ keywordLetters, foldKeywordChar (asciiLowerChar c) = foldKeywordChar c :=
        forall_mem_of_all (by decide)
      have hmap : (asciiLower name).map foldKeywordChar = name.map foldKeywordChar := by
        rw [asciiLower, List.map_map]
        exact List.map_congr_left fun c hc => hfold c (hletters c hc)
      rw [lowercase_thorns hletters]
      refine .thorns ?_
      rwa [isThornsKeyword, hmap]

/-- Whether a text is a name does not depend on the ASCII case of its letters. -/
theorem IsName.of_asciiLower_eq {name name' : List Char} (h : IsName name)
    (he : asciiLower name' = asciiLower name) : IsName name' := by
  cases h with
  | @pair a b ha hb hwa hwb =>
      have hword : ∀ {xs ys : List Char}, xs.map asciiLowerChar = ys.map asciiLowerChar →
          (∀ c ∈ ys, isWord c = true) → ∀ c ∈ xs, isWord c = true := by
        intro xs ys hxy hys c hc
        have hmem : asciiLowerChar c ∈ ys.map asciiLowerChar := hxy ▸ List.mem_map_of_mem hc
        obtain ⟨d, hd, hdc⟩ := List.mem_map.1 hmem
        rw [← isWord_asciiLowerChar, ← hdc, isWord_asciiLowerChar]
        exact hys d hd
      have hcolon : ∀ {c : Char}, asciiLowerChar c = asciiLowerChar ':' → c = ':' := fun hc =>
        (asciiLowerChar_eq_iff (d := ':') (by decide) _).1 (hc.trans (by decide))
      rw [asciiLower, asciiLower, List.map_append, List.map_cons, List.map_cons] at he
      obtain ⟨a', t, rfl, ha', ht⟩ := List.map_eq_append_iff.1 he
      obtain ⟨x, t, rfl, hx, ht⟩ := List.map_eq_cons_iff.1 ht
      obtain ⟨y, b', rfl, hy, hb'⟩ := List.map_eq_cons_iff.1 ht
      rw [hcolon hx, hcolon hy]
      refine .pair ?_ ?_ (hword ha' hwa) (hword hb' hwb)
      · rintro rfl
        exact ha (List.map_eq_nil_iff.1 ha'.symm)
      · rintro rfl
        exact hb (List.map_eq_nil_iff.1 hb'.symm)
  | thorns hw =>
      have hfold : ∀ c, foldKeywordChar (asciiLowerChar c) = foldKeywordChar c :=
        asciiLowerChar_rec (P := fun c d => foldKeywordChar d = foldKeywordChar c) (fun _ => rfl)
          (forall_mem_of_all (by decide +kernel))
      have hmap : ∀ cs : List Char, (asciiLower cs).map foldKeywordChar = cs.map foldKeywordChar := by
        intro cs
        rw [asciiLower, List.map_map]
        exact List.map_congr_left fun c _ => hfold c
      refine .thorns ?_
      rwa [isThornsKeyword, ← hmap, he, hmap]

end GridSetup.Parameter
