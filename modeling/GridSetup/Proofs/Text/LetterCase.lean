import GridSetup.Text.LetterCase
import GridSetup.Text.Word
import Mathlib.Tactic.Common

/-!
# Lower case is final, and stays inside words

A key is put into lower case when its line is read, again when it is stored, and again whenever it
is looked up, so everything said about keys rests on the second time changing nothing. The table
decides it: the lower-case forms of a run of letters are themselves a run, and that run meets no run
of the table. Nor does it meet the two letters with rules of their own, which is why the
surroundings of a letter, decisive for a capital sigma, no longer matter the second time.

The other fact is that the table leads from word characters to word characters. A name keeps its
shape in lower case because of it: word characters, two colons, word characters.
-/

namespace GridSetup.Text

/-- What a check of a list finds of each of its characters. The check runs over
the list and never over all characters. -/
theorem forall_mem_of_all {p : Char → Prop} [DecidablePred p] {cs : List Char}
    (h : (cs.all fun c => decide (p c)) = true) : ∀ c ∈ cs, p c := by
  intro c hc
  exact of_decide_eq_true (List.all_eq_true.1 h c hc)

/-! ## The table

Each check below runs over the runs of letters, never over the letters. -/

/-- The lower-case forms of the letters of a run. -/
def CaseRun.image (r : CaseRun) : CaseRun :=
  ((r.1 + r.2.2.2).toNat, (r.2.1 + r.2.2.2).toNat, r.2.2.1, 0)

/-- Whether two runs are seen to have no code point in common: they do not overlap, or they take
turns. A run of one letter takes turns with any run of every second. -/
def CaseRun.apart (r s : CaseRun) : Bool :=
  r.2.1.blt s.1 || s.2.1.blt r.1 ||
    ((r.2.2.1.beq 2 || r.1.beq r.2.1) && s.2.2.1.beq 2 && ((r.1 + s.1) % 2).beq 1)

/-- Whether the code points between the ends of a run are characters. -/
def CaseRun.scalar (r : CaseRun) : Bool :=
  r.2.1 < 0xD800 || (0xDFFF < r.1 && r.2.1 < 0x110000)

/-- The dotted capital I, as a run of one letter. -/
def dottedRun : CaseRun := (0x130, 0x130, 2, 0)

theorem caseRuns_image_apart :
    caseRuns.all (fun r => (dottedRun :: caseRuns).all fun s => r.image.apart s) = true := by
  decide +kernel

theorem caseRuns_image_scalar :
    caseRuns.all (fun r => decide (0 ≤ r.1 + r.2.2.2) && r.image.scalar) = true := by
  decide +kernel

/-- The forms of a run lie in one range of word characters, or else the letters of the run that are
words are seen one by one to have forms that are words. -/
theorem caseRuns_image_word :
    caseRuns.all (fun r =>
      wordSet.ranges.any (fun w => w.1.ble r.image.1 && r.image.2.1.ble w.2) ||
      (List.range (r.2.1 + 1 - r.1)).all fun i =>
        !r.contains (r.1 + i) || !wordSet.containsCode (r.1 + i) ||
          wordSet.containsCode (r.1 + i + r.2.2.2).toNat) = true := by
  decide +kernel

theorem CaseRun.contains_iff {r : CaseRun} {n : Nat} :
    r.contains n = true ↔ r.1 ≤ n ∧ n ≤ r.2.1 ∧ (n - r.1) % r.2.2.1 = 0 := by
  simp [CaseRun.contains, and_assoc]

theorem CaseRun.not_contains_of_apart {r s : CaseRun} {n : Nat} (h : r.apart s = true)
    (hr : r.contains n = true) : s.contains n = false := by
  rw [Bool.eq_false_iff]
  intro hs
  rw [CaseRun.contains_iff] at hr hs
  obtain ⟨a, b, step, d⟩ := r
  obtain ⟨a', b', step', d'⟩ := s
  simp only [CaseRun.apart, Bool.or_eq_true, Bool.and_eq_true, Nat.blt_eq, Nat.beq_eq] at h
  simp only at hr hs
  rcases h with (h | h) | ⟨⟨h₁ | h₁, h₂⟩, h₃⟩
  · omega
  · omega
  · subst h₁ h₂
    omega
  · subst h₁ h₂
    omega

theorem CaseRun.image_contains {r : CaseRun} {n : Nat} (hd : 0 ≤ r.1 + r.2.2.2)
    (h : r.contains n = true) : r.image.contains (n + r.2.2.2).toNat = true := by
  rw [CaseRun.contains_iff] at h ⊢
  obtain ⟨a, b, step, d⟩ := r
  simp only [CaseRun.image] at h hd ⊢
  obtain ⟨hlo, hhi, hstep⟩ := h
  have hsub : (n + d).toNat - (a + d).toNat = n - a := by omega
  refine ⟨by omega, by omega, ?_⟩
  rw [hsub]
  exact hstep

/-! ## Code points -/

/-- A code point has a lower-case form by one of the runs, or is its own. -/
theorem lowerCode_cases (n : Nat) :
    (∃ r ∈ caseRuns, r.contains n = true ∧ lowerCode n = (n + r.2.2.2).toNat) ∨
      (∀ r ∈ caseRuns, r.contains n = false) ∧ lowerCode n = n := by
  unfold lowerCode
  cases hf : caseRuns.find? (·.contains n) with
  | some r =>
      have hc : r.contains n = true := by simpa using List.find?_some hf
      exact Or.inl ⟨r, List.mem_of_find?_eq_some hf, hc, rfl⟩
  | none =>
      refine Or.inr ⟨fun r hr => ?_, rfl⟩
      have := List.find?_eq_none.1 hf r hr
      simpa using this

theorem lowerCode_eq_self {n : Nat} (h : ∀ r ∈ caseRuns, r.contains n = false) :
    lowerCode n = n := by
  rcases lowerCode_cases n with ⟨r, hr, hc, _⟩ | ⟨_, h'⟩
  · rw [h r hr] at hc
    cases hc
  · exact h'

/-- What the runs say of every lower-case form that is not the letter itself. -/
theorem image_facts {r : CaseRun} {n : Nat} (hr : r ∈ caseRuns) (hn : r.contains n = true) :
    (∀ s ∈ dottedRun :: caseRuns, s.contains (n + r.2.2.2).toNat = false) ∧
      (n + r.2.2.2).toNat.isValidChar := by
  have hs := List.all_eq_true.1 caseRuns_image_scalar r hr
  rw [Bool.and_eq_true, decide_eq_true_eq] at hs
  have himage := CaseRun.image_contains hs.1 hn
  refine ⟨fun s hmem => ?_, ?_⟩
  · have ha := List.all_eq_true.1 (List.all_eq_true.1 caseRuns_image_apart r hr) s hmem
    exact CaseRun.not_contains_of_apart ha himage
  · have hscalar := hs.2
    rw [CaseRun.contains_iff] at himage
    simp only [CaseRun.scalar, Bool.or_eq_true, Bool.and_eq_true, decide_eq_true_eq] at hscalar
    simp only [Nat.isValidChar]
    omega

theorem lowerCode_lowerCode (n : Nat) : lowerCode (lowerCode n) = lowerCode n := by
  rcases lowerCode_cases n with ⟨r, hr, hn, he⟩ | ⟨_, he⟩
  · rw [he]
    exact lowerCode_eq_self fun s hs => (image_facts hr hn).1 s (List.mem_cons_of_mem _ hs)
  · rw [he, he]

theorem lowerCode_isValidChar {n : Nat} (h : n.isValidChar) : (lowerCode n).isValidChar := by
  rcases lowerCode_cases n with ⟨r, hr, hn, he⟩ | ⟨_, he⟩
  · rw [he]
    exact (image_facts hr hn).2
  · rwa [he]

theorem lowerCode_ne_dotted {n : Nat} (h : n ≠ 0x130) : lowerCode n ≠ 0x130 := by
  rcases lowerCode_cases n with ⟨r, hr, hn, he⟩ | ⟨_, he⟩
  · intro hdot
    have := (image_facts hr hn).1 dottedRun List.mem_cons_self
    rw [← he, hdot] at this
    revert this
    decide
  · rwa [he]

theorem lowerCode_word {n : Nat} (h : wordSet.containsCode n = true) :
    wordSet.containsCode (lowerCode n) = true := by
  rcases lowerCode_cases n with ⟨r, hr, hn, he⟩ | ⟨_, he⟩
  · rw [he]
    have hc := List.all_eq_true.1 caseRuns_image_word r hr
    have hd := List.all_eq_true.1 caseRuns_image_scalar r hr
    rw [Bool.and_eq_true, decide_eq_true_eq] at hd
    rw [Bool.or_eq_true] at hc
    rcases hc with hrange | hall
    · obtain ⟨w, hw, hin⟩ := List.any_eq_true.1 hrange
      rw [Bool.and_eq_true, Nat.ble_eq, Nat.ble_eq] at hin
      have himage := CaseRun.contains_iff.1 (CaseRun.image_contains hd.1 hn)
      exact CharSet.containsCode_iff.2 ⟨w, hw, by omega, by omega⟩
    · have hlo := CaseRun.contains_iff.1 hn
      have hi := List.all_eq_true.1 hall (n - r.1) (List.mem_range.2 (by omega))
      rw [show r.1 + (n - r.1) = n by omega, hn, h] at hi
      rw [← hi, Bool.not_true, Bool.false_or, Bool.false_or]
      congr 2
      omega
  · rwa [he]

/-! ## Characters -/

/-- A character that lower case leaves as it is, wherever it stands. -/
def IsLower (c : Char) : Prop :=
  c ≠ 'Σ' ∧ lowerChar c = [c]

instance (c : Char) : Decidable (IsLower c) :=
  inferInstanceAs (Decidable (_ ∧ _))

theorem toNat_ofNat_lowerCode (c : Char) :
    (Char.ofNat (lowerCode c.toNat)).toNat = lowerCode c.toNat := by
  have hv : (lowerCode c.toNat).isValidChar := lowerCode_isValidChar c.valid
  rw [Char.ofNat, dif_pos hv]
  rfl

/-- The single form of a letter without a rule of its own is not touched again. -/
theorem isLower_ofNat_lowerCode {c : Char} (h : c ≠ 'İ') :
    IsLower (Char.ofNat (lowerCode c.toNat)) := by
  have hnat := toNat_ofNat_lowerCode c
  have hc : c.toNat ≠ 0x130 := fun he => h (Char.toNat_inj.1 he)
  have hdot : Char.ofNat (lowerCode c.toNat) ≠ 'İ' := by
    intro he
    have := congrArg Char.toNat he
    rw [hnat] at this
    exact lowerCode_ne_dotted hc this
  refine ⟨fun he => ?_, ?_⟩
  · have hsigma : lowerCode c.toNat = 0x3A3 := by
      rw [← hnat, he]
      rfl
    have hagain := lowerCode_lowerCode c.toNat
    rw [hsigma] at hagain
    revert hagain
    decide
  · rw [lowerChar, if_neg hdot, hnat, lowerCode_lowerCode]

theorem isLower_of_mem_lowerAt {before after : List Char} {c d : Char}
    (h : d ∈ lowerAt before c after) : IsLower d := by
  rw [lowerAt] at h
  split at h
  · split at h
    · rw [List.mem_singleton.1 h]
      decide
    · rw [List.mem_singleton.1 h]
      decide
  · rw [lowerChar] at h
    split at h
    · have hforms : ∀ d ∈ ['i', '\u0307'], IsLower d :=
        forall_mem_of_all (by decide)
      exact hforms d h
    · next hne =>
        rw [List.mem_singleton.1 h]
        exact isLower_ofNat_lowerCode hne

theorem lowerAt_of_isLower {before after : List Char} {c : Char} (h : IsLower c) :
    lowerAt before c after = [c] := by
  rw [lowerAt, if_neg h.1, h.2]

theorem lowerAt_ne_nil (before after : List Char) (c : Char) : lowerAt before c after ≠ [] := by
  rw [lowerAt, lowerChar]
  split
  · simp
  · split <;> simp

theorem isWord_of_mem_lowerAt {before after : List Char} {c d : Char} (hc : isWord c = true)
    (h : d ∈ lowerAt before c after) : isWord d = true := by
  rw [lowerAt] at h
  split at h
  · split at h
    · rw [List.mem_singleton.1 h]
      decide
    · rw [List.mem_singleton.1 h]
      decide
  · rw [lowerChar] at h
    split at h
    · have hforms : ∀ d ∈ ['i', '\u0307'], isWord d = true :=
        forall_mem_of_all (by decide)
      exact hforms d h
    · rw [List.mem_singleton.1 h, isWord, CharSet.contains, toNat_ofNat_lowerCode]
      exact lowerCode_word hc

/-! ## Texts -/

/-- The lower-case form of the characters between `before`, nearest first, and `after`. -/
def lowerBetween (before : List Char) : List Char → List Char → List Char
  | [], _ => []
  | c :: cs, after => lowerAt before c (cs ++ after) ++ lowerBetween (c :: before) cs after

theorem lowerFrom_append (before cs after : List Char) :
    lowerFrom before (cs ++ after) =
      lowerBetween before cs after ++ lowerFrom (cs.reverse ++ before) after := by
  induction cs generalizing before with
  | nil => rfl
  | cons c cs ih =>
      rw [List.cons_append, lowerFrom, ih, lowerBetween, List.append_assoc, List.reverse_cons,
        List.append_assoc]
      rfl

theorem lowerFrom_eq_lowerBetween (before cs : List Char) :
    lowerFrom before cs = lowerBetween before cs [] := by
  have h := lowerFrom_append before cs []
  rwa [List.append_nil, lowerFrom, List.append_nil] at h

theorem lowerBetween_ne_nil {before cs after : List Char} (h : cs ≠ []) :
    lowerBetween before cs after ≠ [] := by
  cases cs with
  | nil => exact absurd rfl h
  | cons c cs =>
      rw [lowerBetween]
      intro hnil
      exact lowerAt_ne_nil _ _ _ (List.append_eq_nil_iff.1 hnil).1

theorem isWord_of_mem_lowerBetween {before cs after : List Char}
    (h : ∀ c ∈ cs, isWord c = true) :
    ∀ d ∈ lowerBetween before cs after, isWord d = true := by
  induction cs generalizing before with
  | nil =>
      intro d hd
      cases hd
  | cons c cs ih =>
      intro d hd
      rw [lowerBetween, List.mem_append] at hd
      rcases hd with hd | hd
      · exact isWord_of_mem_lowerAt (h c List.mem_cons_self) hd
      · exact ih (fun x hx => h x (List.mem_cons_of_mem _ hx)) d hd

theorem lowerBetween_eq_self {before cs after : List Char} (h : ∀ c ∈ cs, IsLower c) :
    lowerBetween before cs after = cs := by
  induction cs generalizing before with
  | nil => rfl
  | cons c cs ih =>
      rw [lowerBetween, lowerAt_of_isLower (h c List.mem_cons_self),
        ih fun x hx => h x (List.mem_cons_of_mem _ hx)]
      rfl

theorem isLower_of_mem_lowercase {cs : List Char} : ∀ d ∈ lowercase cs, IsLower d := by
  have hfrom : ∀ before, ∀ d ∈ lowerFrom before cs, IsLower d := by
    induction cs with
    | nil =>
        intro before d hd
        cases hd
    | cons c cs ih =>
        intro before d hd
        rw [lowerFrom, List.mem_append] at hd
        rcases hd with hd | hd
        · exact isLower_of_mem_lowerAt hd
        · exact ih _ d hd
  exact hfrom []

theorem lowercase_eq_self {cs : List Char} (h : ∀ c ∈ cs, IsLower c) : lowercase cs = cs := by
  rw [lowercase, lowerFrom_eq_lowerBetween, lowerBetween_eq_self h]

/-- Lower case is final. -/
theorem lowercase_lowercase (cs : List Char) : lowercase (lowercase cs) = lowercase cs :=
  lowercase_eq_self isLower_of_mem_lowercase

end GridSetup.Text
