import GridSetup.Proofs.Text.LetterCase
import Mathlib.Data.List.Forall2

/-!
# Texts with the same letters

Two texts of one length have the same letters if the characters at each place have one lower-case
form, taken by themselves. Lower case as a whole could still tell such texts apart, since a capital
sigma looks at its neighbours. It almost never does. What it looks for in a neighbour is whether it is
cased and whether it is passed over, and the table leads from cased characters to cased ones and
touches nothing that is passed over, so a letter and its lower case look the same from the sigma
(`SameLetters.meetsCased_eq`).

That leaves the sigma itself. A capital one that ends a word becomes the final sigma, where a small one
stays the ordinary sigma. This is the only way in which two texts with the same letters come out
different, and there they do (`lowercase_eq_iff`).
-/

namespace GridSetup.Text

/-- Two characters with one lower-case form. -/
def SameLetter (c d : Char) : Prop :=
  lowerChar c = lowerChar d

instance (c d : Char) : Decidable (SameLetter c d) :=
  inferInstanceAs (Decidable (_ = _))

/-- Two texts of one length with the same letter at each place. -/
def SameLetters (a b : List Char) : Prop :=
  List.Forall₂ SameLetter a b

theorem sameLetters_iff_map {a b : List Char} :
    SameLetters a b ↔ a.map lowerChar = b.map lowerChar := by
  rw [← List.forall₂_eq_eq_eq, List.forall₂_map_left_iff, List.forall₂_map_right_iff]
  rfl

instance (a b : List Char) : Decidable (SameLetters a b) :=
  decidable_of_iff _ sameLetters_iff_map.symm

/-! ## What a sigma sees of a letter -/

/-- Whether all letters of a run are seen to be in a set: the run lies in one range, or its letters
are in the set one by one. -/
def CharSet.covers (s : CharSet) (r : CaseRun) : Bool :=
  s.ranges.any (fun w => w.1.ble r.1 && r.2.1.ble w.2) ||
    (List.range (r.2.1 + 1 - r.1)).all fun i => !r.contains (r.1 + i) || s.containsCode (r.1 + i)

/-- Whether a run lies between the ranges of a set. -/
def CharSet.misses (s : CharSet) (r : CaseRun) : Bool :=
  s.ranges.all fun w => w.2.blt r.1 || r.2.1.blt w.1

theorem caseRuns_cased :
    caseRuns.all (fun r => casedSet.covers r && casedSet.covers r.image) = true := by
  decide +kernel

theorem caseRuns_not_ignorable :
    caseRuns.all (fun r => caseIgnorableSet.misses r && caseIgnorableSet.misses r.image) = true := by
  decide +kernel

theorem containsCode_of_covers {s : CharSet} {r : CaseRun} (h : s.covers r = true) {n : Nat}
    (hn : r.contains n = true) : s.containsCode n = true := by
  have hbounds := CaseRun.contains_iff.1 hn
  rw [CharSet.covers, Bool.or_eq_true] at h
  rcases h with hrange | hall
  · obtain ⟨w, hw, hin⟩ := List.any_eq_true.1 hrange
    simp only [Bool.and_eq_true, Nat.ble_eq] at hin
    exact CharSet.containsCode_iff.2 ⟨w, hw, by omega, by omega⟩
  · have hi := List.all_eq_true.1 hall (n - r.1) (List.mem_range.2 (by omega))
    rw [show r.1 + (n - r.1) = n by omega, hn] at hi
    simpa using hi

theorem not_containsCode_of_misses {s : CharSet} {r : CaseRun} (h : s.misses r = true) {n : Nat}
    (hn : r.contains n = true) : s.containsCode n = false := by
  have hbounds := CaseRun.contains_iff.1 hn
  rw [Bool.eq_false_iff]
  intro hs
  obtain ⟨w, hw, hlo, hhi⟩ := CharSet.containsCode_iff.1 hs
  have hapart := List.all_eq_true.1 h w hw
  simp only [Bool.or_eq_true, Nat.blt_eq] at hapart
  omega

theorem casedSet_lowerCode (n : Nat) :
    casedSet.containsCode (lowerCode n) = casedSet.containsCode n := by
  rcases lowerCode_cases n with ⟨r, hr, hn, he⟩ | ⟨-, he⟩
  · have hboth := List.all_eq_true.1 caseRuns_cased r hr
    have hd := List.all_eq_true.1 caseRuns_image_scalar r hr
    simp only [Bool.and_eq_true, decide_eq_true_eq] at hboth hd
    rw [he, containsCode_of_covers hboth.1 hn,
      containsCode_of_covers hboth.2 (CaseRun.image_contains hd.1 hn)]
  · rw [he]

theorem caseIgnorableSet_lowerCode (n : Nat) :
    caseIgnorableSet.containsCode (lowerCode n) = caseIgnorableSet.containsCode n := by
  rcases lowerCode_cases n with ⟨r, hr, hn, he⟩ | ⟨-, he⟩
  · have hboth := List.all_eq_true.1 caseRuns_not_ignorable r hr
    have hd := List.all_eq_true.1 caseRuns_image_scalar r hr
    simp only [Bool.and_eq_true, decide_eq_true_eq] at hboth hd
    rw [he, not_containsCode_of_misses hboth.1 hn,
      not_containsCode_of_misses hboth.2 (CaseRun.image_contains hd.1 hn)]
  · rw [he]

/-- The dotted capital I has two characters for its lower case and shares it with no other. -/
theorem SameLetter.cases {c d : Char} (h : SameLetter c d) :
    c = d ∨ lowerCode c.toNat = lowerCode d.toNat := by
  rw [SameLetter, lowerChar, lowerChar] at h
  split at h <;> split at h
  · next hc hd => exact Or.inl (hc.trans hd.symm)
  · simp at h
  · simp at h
  · right
    have hcode := congrArg Char.toNat (List.singleton_inj.1 h)
    rwa [toNat_ofNat_lowerCode, toNat_ofNat_lowerCode] at hcode

theorem SameLetter.cased_eq {c d : Char} (h : SameLetter c d) :
    casedSet.contains c = casedSet.contains d := by
  rcases h.cases with rfl | hcode
  · rfl
  · rw [CharSet.contains, CharSet.contains, ← casedSet_lowerCode, hcode, casedSet_lowerCode]

theorem SameLetter.ignorable_eq {c d : Char} (h : SameLetter c d) :
    caseIgnorableSet.contains c = caseIgnorableSet.contains d := by
  rcases h.cases with rfl | hcode
  · rfl
  · rw [CharSet.contains, CharSet.contains, ← caseIgnorableSet_lowerCode, hcode,
      caseIgnorableSet_lowerCode]

theorem SameLetters.meetsCased_eq {a b : List Char} (h : SameLetters a b) :
    meetsCased a = meetsCased b := by
  induction h with
  | nil => rfl
  | @cons c d a b hcd _ ih =>
      simp only [meetsCased, List.dropWhile_cons, hcd.ignorable_eq] at ih ⊢
      cases caseIgnorableSet.contains d with
      | true => exact ih
      | false => exact hcd.cased_eq

/-! ## Where texts with the same letters differ in lower case -/

/-- A capital sigma at an index of the text that follows `before`, nearest first, at the end of a
word. -/
def SigmaEndsWord (before cs : List Char) (i : Nat) : Prop :=
  cs[i]? = some 'Σ' ∧ meetsCased ((cs.take i).reverse ++ before) = true ∧
    meetsCased (cs.drop (i + 1)) = false

instance (before cs : List Char) (i : Nat) : Decidable (SigmaEndsWord before cs i) :=
  inferInstanceAs (Decidable (_ ∧ _))

/-- At an index one of two texts has a capital sigma that ends a word, and the other one has no
capital sigma. -/
def ApartAt (before a before' b : List Char) (i : Nat) : Prop :=
  (SigmaEndsWord before a i ∧ b[i]? ≠ some 'Σ') ∨ (SigmaEndsWord before' b i ∧ a[i]? ≠ some 'Σ')

instance (before a before' b : List Char) (i : Nat) : Decidable (ApartAt before a before' b i) :=
  inferInstanceAs (Decidable (_ ∨ _))

/-- One of two texts has a capital sigma at the end of a word where the other one has a small one. -/
def SigmaApart (a b : List Char) : Prop :=
  ∃ i < a.length, ApartAt [] a [] b i

instance (a b : List Char) : Decidable (SigmaApart a b) :=
  inferInstanceAs (Decidable (∃ i < a.length, ApartAt [] a [] b i))

theorem sigmaEndsWord_zero {before after : List Char} {c : Char} :
    SigmaEndsWord before (c :: after) 0 ↔
      c = 'Σ' ∧ meetsCased before = true ∧ meetsCased after = false := by
  simp [SigmaEndsWord]

theorem sigmaEndsWord_succ {before cs : List Char} {c : Char} {i : Nat} :
    SigmaEndsWord before (c :: cs) (i + 1) ↔ SigmaEndsWord (c :: before) cs i := by
  simp [SigmaEndsWord]

theorem apartAt_succ {before a before' b : List Char} {c d : Char} {i : Nat} :
    ApartAt before (c :: a) before' (d :: b) (i + 1) ↔ ApartAt (c :: before) a (d :: before') b i := by
  simp [ApartAt, sigmaEndsWord_succ]

theorem lowerChar_sigma : lowerChar 'Σ' = ['σ'] := by
  decide

theorem lowerAt_eq (before : List Char) (c : Char) (after : List Char) :
    lowerAt before c after =
      if SigmaEndsWord before (c :: after) 0 then ['ς'] else lowerChar c := by
  simp only [sigmaEndsWord_zero]
  by_cases hc : c = 'Σ'
  · subst hc
    rw [lowerAt, lowerChar_sigma]
    cases meetsCased before <;> cases meetsCased after <;> rfl
  · simp [lowerAt, hc]

section

variable {before after before' after' a b : List Char} {c d : Char}

/-- A sigma that ends a word would end it in the other text as well. -/
theorem sigmaEndsWord_of_sameLetters (hbefore : SameLetters before before')
    (hafter : SameLetters after after') (hc : SigmaEndsWord before (c :: after) 0) (hd : d = 'Σ') :
    SigmaEndsWord before' (d :: after') 0 := by
  rw [sigmaEndsWord_zero] at hc ⊢
  rw [← hbefore.meetsCased_eq, ← hafter.meetsCased_eq]
  exact ⟨hd, hc.2⟩

theorem SameLetters.symm (h : SameLetters a b) : SameLetters b a := by
  rw [sameLetters_iff_map] at h ⊢
  exact h.symm

theorem lowerAt_eq_iff (hbefore : SameLetters before before') (hcd : SameLetter c d)
    (hafter : SameLetters after after') :
    lowerAt before c after = lowerAt before' d after' ↔
      ¬ ApartAt before (c :: after) before' (d :: after') 0 := by
  have hfinal : ['ς'] ≠ lowerChar 'Σ' := by
    rw [lowerChar_sigma]
    decide
  have hletters : lowerChar c = lowerChar d := hcd
  simp only [lowerAt_eq, ApartAt, List.getElem?_cons_zero, ne_eq, Option.some.injEq]
  by_cases hc : SigmaEndsWord before (c :: after) 0
  · by_cases hd : SigmaEndsWord before' (d :: after') 0
    · rw [if_pos hc, if_pos hd]
      simp [(sigmaEndsWord_zero.1 hc).1, (sigmaEndsWord_zero.1 hd).1]
    · have hne : d ≠ 'Σ' := fun h => hd (sigmaEndsWord_of_sameLetters hbefore hafter hc h)
      rw [(sigmaEndsWord_zero.1 hc).1] at hletters
      simp [hc, hd, hne, ← hletters, hfinal]
  · by_cases hd : SigmaEndsWord before' (d :: after') 0
    · have hne : c ≠ 'Σ' := fun h =>
        hc (sigmaEndsWord_of_sameLetters hbefore.symm hafter.symm hd h)
      rw [(sigmaEndsWord_zero.1 hd).1] at hletters
      simp [hc, hd, hne, hletters, hfinal.symm]
    · simp [hc, hd, hletters]

theorem SameLetter.length_lowerAt_eq (hcd : SameLetter c d) :
    (lowerAt before c after).length = (lowerAt before' d after').length := by
  have hone : ∀ {before after : List Char} {c : Char},
      (lowerAt before c after).length = (lowerChar c).length := by
    intro before after c
    rw [lowerAt_eq]
    split
    · next h => rw [(sigmaEndsWord_zero.1 h).1, lowerChar_sigma, List.length_singleton,
        List.length_singleton]
    · rfl
  rw [hone, hone, show lowerChar c = lowerChar d from hcd]

theorem lowerFrom_eq_iff (h : SameLetters a b) (hbefore : SameLetters before before') :
    lowerFrom before a = lowerFrom before' b ↔
      ∀ i < a.length, ¬ ApartAt before a before' b i := by
  induction h generalizing before before' with
  | nil => simp [lowerFrom]
  | @cons c d a b hcd hab ih =>
      rw [lowerFrom, lowerFrom,
        List.append_eq_append_iff_of_size_eq_left hcd.length_lowerAt_eq,
        lowerAt_eq_iff hbefore hcd hab, ih (.cons hcd hbefore), List.length_cons,
        Nat.forall_lt_succ_left]
      simp only [apartAt_succ]

/-- Lower case tells texts with the same letters apart by a sigma at the end of a word, and by nothing
else. -/
theorem lowercase_eq_iff (h : SameLetters a b) : lowercase a = lowercase b ↔ ¬ SigmaApart a b := by
  rw [lowercase, lowercase, lowerFrom_eq_iff h .nil, SigmaApart]
  simp

end

end GridSetup.Text
