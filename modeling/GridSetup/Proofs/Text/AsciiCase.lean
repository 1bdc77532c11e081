import GridSetup.Proofs.Text.LetterCase
import GridSetup.Text.Blank

/-!
# The case of `A` to `Z` and nothing else

Changing the case of ASCII letters changes no property of a character that reading a line looks at:
not whether it is a word character or a blank, not what it is in lower case, and not whether it is
cased or case-ignorable. The last two are what a capital sigma nearby looks at, so lower case as a
whole, context included, is blind to the ASCII case of its argument.
-/

namespace GridSetup.Text

/-- The letters that `asciiLower` changes. -/
def capitals : List Char :=
  ['A', 'B', 'C', 'D', 'E', 'F', 'G', 'H', 'I', 'J', 'K', 'L', 'M', 'N', 'O', 'P', 'Q', 'R', 'S',
    'T', 'U', 'V', 'W', 'X', 'Y', 'Z']

/-- What holds of every code point below a bound holds of the characters there. -/
theorem of_toNat_lt {P : Char → Prop} {bound : Nat} (h : ∀ n < bound, P (Char.ofNat n)) {c : Char}
    (hc : c.toNat < bound) : P c := by
  have hp := h c.toNat hc
  rwa [Char.ofNat_toNat] at hp

theorem mem_capitals {c : Char} (h : 'A' ≤ c ∧ c ≤ 'Z') : c ∈ capitals := by
  have hlo : 65 ≤ c.toNat := h.1
  have hhi : c.toNat < 91 := Nat.lt_succ_of_le h.2
  exact of_toNat_lt (P := fun c => 65 ≤ c.toNat → c ∈ capitals) (by decide) hhi hlo

/-- What holds of every capital and its small letter holds of every character and its ASCII
lower case, if it holds of a character and itself. -/
theorem asciiLowerChar_rec {P : Char → Char → Prop} (hrefl : ∀ c, P c c)
    (hcap : ∀ c ∈ capitals, P c (asciiLowerChar c)) (c : Char) : P c (asciiLowerChar c) := by
  by_cases h : 'A' ≤ c ∧ c ≤ 'Z'
  · exact hcap c (mem_capitals h)
  · rw [asciiLowerChar, if_neg h]
    exact hrefl c

theorem isWord_asciiLowerChar (c : Char) : isWord (asciiLowerChar c) = isWord c :=
  asciiLowerChar_rec (P := fun c d => isWord d = isWord c) (fun _ => rfl)
    (forall_mem_of_all (by decide)) c

theorem isBlank_asciiLowerChar (c : Char) : isBlank (asciiLowerChar c) = isBlank c :=
  asciiLowerChar_rec (P := fun c d => isBlank d = isBlank c) (fun _ => rfl)
    (forall_mem_of_all (by decide)) c

theorem casedSet_asciiLowerChar (c : Char) :
    casedSet.contains (asciiLowerChar c) = casedSet.contains c :=
  asciiLowerChar_rec (P := fun c d => casedSet.contains d = casedSet.contains c) (fun _ => rfl)
    (forall_mem_of_all (by decide)) c

theorem caseIgnorableSet_asciiLowerChar (c : Char) :
    caseIgnorableSet.contains (asciiLowerChar c) = caseIgnorableSet.contains c :=
  asciiLowerChar_rec (P := fun c d => caseIgnorableSet.contains d = caseIgnorableSet.contains c)
    (fun _ => rfl) (forall_mem_of_all (by decide +kernel)) c

theorem lowerChar_asciiLowerChar (c : Char) : lowerChar (asciiLowerChar c) = lowerChar c :=
  asciiLowerChar_rec (P := fun c d => lowerChar d = lowerChar c) (fun _ => rfl)
    (forall_mem_of_all (by decide +kernel)) c

theorem isLower_of_ascii {c : Char} (h : c.toNat < 128) (hcap : ¬('A' ≤ c ∧ c ≤ 'Z')) :
    IsLower c :=
  of_toNat_lt (P := fun c => ¬('A' ≤ c ∧ c ≤ 'Z') → IsLower c) (by decide +kernel) h hcap

theorem asciiLowerChar_eq_iff {d : Char} (h : asciiLowerChar d = d ∧
    (capitals.all fun c => asciiLowerChar c != d) = true) (c : Char) :
    asciiLowerChar c = d ↔ c = d := by
  constructor
  · intro he
    by_cases hc : 'A' ≤ c ∧ c ≤ 'Z'
    · have hne := List.all_eq_true.1 h.2 c (mem_capitals hc)
      exact absurd he (bne_iff_ne.1 hne)
    · rwa [asciiLowerChar, if_neg hc] at he
  · rintro rfl
    exact h.1

theorem meetsCased_asciiLower (cs : List Char) : meetsCased (asciiLower cs) = meetsCased cs := by
  induction cs with
  | nil => rfl
  | cons c cs ih =>
      simp only [meetsCased, asciiLower, List.map_cons, List.dropWhile_cons,
        caseIgnorableSet_asciiLowerChar] at ih ⊢
      cases hc : caseIgnorableSet.contains c with
      | true => exact ih
      | false => exact casedSet_asciiLowerChar c

theorem lowerAt_asciiLower (before after : List Char) (c : Char) :
    lowerAt (asciiLower before) (asciiLowerChar c) (asciiLower after) = lowerAt before c after := by
  have hsigma : asciiLowerChar c = 'Σ' ↔ c = 'Σ' := asciiLowerChar_eq_iff (by decide) c
  simp only [lowerAt, hsigma, meetsCased_asciiLower, lowerChar_asciiLowerChar]

theorem lowerFrom_asciiLower (before cs : List Char) :
    lowerFrom (asciiLower before) (asciiLower cs) = lowerFrom before cs := by
  induction cs generalizing before with
  | nil => rfl
  | cons c cs ih =>
      have hc := ih (c :: before)
      simp only [asciiLower, List.map_cons] at hc ⊢
      rw [lowerFrom, lowerFrom, hc]
      congr 1
      exact lowerAt_asciiLower before cs c

/-- Lower case does not see the ASCII case of a text. -/
theorem lowercase_asciiLower (cs : List Char) : lowercase (asciiLower cs) = lowercase cs :=
  lowerFrom_asciiLower [] cs

end GridSetup.Text
