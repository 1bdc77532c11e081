import GridSetup.Proofs.Text.LetterCase

/-!
# Simple case folding

Two texts are the same up to case when they fold to the same text. The simple folding of Unicode
takes every character to one character: to its lower case in most cases, and the letters for which
it does not are `foldRuns`. Small letters that are another form of a small letter fold to that one,
as the long s does to `s` and the final sigma to the ordinary one, and Cherokee folds to its
capitals. The dotted capital I, whose lower case is two characters, folds to itself.

Folding is not how keys are compared, it is how a keyword is recognised, and the two differ: the
long s is in lower case. `mem_of_foldChar_eq` finds the letters that fold to a given one by running
through the runs backwards.
-/

namespace GridSetup.Text

/-- The letters that fold otherwise than to their lower case, with the distance to what they fold
to. -/
def foldRuns : List CaseRun :=
  [
    (0xB5, 0xB5, 1, 775), (0x17F, 0x17F, 1, -268), (0x345, 0x345, 1, 116), (0x3C2, 0x3C2, 1, 1),
    (0x3D0, 0x3D0, 1, -30), (0x3D1, 0x3D1, 1, -25), (0x3D5, 0x3D5, 1, -15),
    (0x3D6, 0x3D6, 1, -22), (0x3F0, 0x3F0, 1, -54), (0x3F1, 0x3F1, 1, -48),
    (0x3F5, 0x3F5, 1, -64), (0x13A0, 0x13F5, 1, 0), (0x13F8, 0x13FD, 1, -8),
    (0x1C80, 0x1C80, 1, -6222), (0x1C81, 0x1C81, 1, -6221), (0x1C82, 0x1C82, 1, -6212),
    (0x1C83, 0x1C84, 1, -6210), (0x1C85, 0x1C85, 1, -6211), (0x1C86, 0x1C86, 1, -6204),
    (0x1C87, 0x1C87, 1, -6180), (0x1C88, 0x1C88, 1, 35267), (0x1E9B, 0x1E9B, 1, -58),
    (0x1FBE, 0x1FBE, 1, -7173), (0x1FD3, 0x1FD3, 1, -7235), (0x1FE3, 0x1FE3, 1, -7219),
    (0xAB70, 0xABBF, 1, -38864), (0xFB05, 0xFB05, 1, 1)
  ]

/-- The code point that a code point folds to. -/
def foldCode (n : Nat) : Nat :=
  match foldRuns.find? (·.contains n) with
  | some r => (n + r.2.2.2).toNat
  | none => lowerCode n

/-- The character that a character folds to. -/
def foldChar (c : Char) : Char :=
  Char.ofNat (foldCode c.toNat)

/-- The text with every character folded. -/
def foldCase (cs : List Char) : List Char :=
  cs.map foldChar

theorem foldCode_cases (n : Nat) :
    (∃ r ∈ foldRuns ++ caseRuns, r.contains n = true ∧ foldCode n = (n + r.2.2.2).toNat) ∨
      foldCode n = n := by
  unfold foldCode
  cases hf : foldRuns.find? (·.contains n) with
  | some r =>
      have hc : r.contains n = true := by simpa using List.find?_some hf
      have hr : r ∈ foldRuns := List.mem_of_find?_eq_some hf
      exact Or.inl ⟨r, List.mem_append_left _ hr, hc, rfl⟩
  | none =>
      rcases lowerCode_cases n with ⟨r, hr, hc, he⟩ | ⟨-, he⟩
      · exact Or.inl ⟨r, List.mem_append_right _ hr, hc, he⟩
      · exact Or.inr he

theorem toNat_eq_of_ofNat_eq {n : Nat} {c : Char} (hc : c ≠ '\x00')
    (h : Char.ofNat n = c) : n = c.toNat := by
  by_cases hv : n.isValidChar
  · rw [Char.ofNat, dif_pos hv] at h
    rw [← h]
    rfl
  · rw [Char.ofNat, dif_neg hv] at h
    exact absurd h.symm hc

/-- A run has one letter at most that folds to a given one, found by going its distance back. What
holds of these letters, and of the given one, holds of all that fold to it. -/
theorem mem_of_foldChar_eq {d : Char} (hd : d ≠ '\x00') {letters : List Char} (hself : d ∈ letters)
    (hruns : (foldRuns ++ caseRuns).all (fun r =>
      !r.contains (d.toNat - r.2.2.2).toNat ||
        letters.contains (Char.ofNat (d.toNat - r.2.2.2).toNat)) = true)
    {c : Char} (h : foldChar c = d) : c ∈ letters := by
  have hcode : foldCode c.toNat = d.toNat := toNat_eq_of_ofNat_eq hd h
  have hpos : d.toNat ≠ 0 := fun hz => hd (Char.toNat_inj.1 hz)
  rcases foldCode_cases c.toNat with ⟨r, hr, hc, he⟩ | he
  · have hback : (d.toNat - r.2.2.2).toNat = c.toNat := by omega
    have hall := List.all_eq_true.1 hruns r hr
    rw [hback, hc, Char.ofNat_toNat] at hall
    simpa using hall
  · have hcd : c = d := Char.toNat_inj.1 (he.symm.trans hcode)
    rwa [hcd]

end GridSetup.Text
