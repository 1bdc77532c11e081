import GridSetup.Proofs.Parameters.Entries
import GridSetup.Proofs.Text.SameLetters

/-!
# Keys letter by letter

A key is stored and looked up in lower case, so two keys stand for one parameter exactly if they are
the same in lower case. For keys with the same letters that is a question about sigmas alone
(`foldKey_eq_iff`). If it comes out well, nothing that is asked of parameters, and nothing that is put
into them, tells the keys apart. If it does not, they are two parameters, and neither sees what is put
in under the other.
-/

namespace GridSetup.Parameters

open GridSetup.Parameter GridSetup.Text

theorem foldKey_eq_iff {a b : String} (h : SameLetters a.toList b.toList) :
    foldKey a = foldKey b ↔ ¬ SigmaApart a.toList b.toList := by
  rw [foldKey, foldKey, String.ofList_inj, lowercase_eq_iff h]

section

variable {a b : String}

theorem insert_insert_of_foldKey_eq (h : foldKey a = foldKey b) (p : Parameters) (v w : String) :
    (p.insert a v).insert b w = p.insert b w := by
  simp only [insert, h, Table.insert_insert]

theorem value?_insert_of_foldKey_ne (h : foldKey a ≠ foldKey b) (p : Parameters) (v : String) :
    (p.insert a v).value? b = p.value? b := by
  simp only [value?, insert, Table.get?_insert, if_neg h.symm]

theorem contains_eq_isSome (p : Parameters) (key : String) :
    p.contains key = (p.value? key).isSome :=
  rfl

/-- Keys with the same letters are found alike, and what is put in under one overwrites what was put in
under the other, unless one has a capital sigma at the end of a word where the other has a small one.
Then what is put in under one is not seen under the other. -/
theorem keys_fold_letter_by_letter (h : SameLetters a.toList b.toList) :
    (¬ SigmaApart a.toList b.toList → ∀ p : Parameters,
      p.contains a = p.contains b ∧ p.value? a = p.value? b ∧
        ∀ v w, (p.insert a v).insert b w = p.insert b w ∧
          (p.insert b v).insert a w = p.insert a w) ∧
      (SigmaApart a.toList b.toList → ∀ (p : Parameters) (v : String),
        (p.insert a v).contains b = p.contains b ∧ (p.insert a v).value? b = p.value? b ∧
          (p.insert b v).contains a = p.contains a ∧ (p.insert b v).value? a = p.value? a) := by
  constructor
  · intro hnot p
    have hkey := (foldKey_eq_iff h).2 hnot
    have hvalue : p.value? a = p.value? b := by rw [value?, hkey, value?]
    refine ⟨?_, hvalue, fun v w => ⟨?_, ?_⟩⟩
    · rw [contains_eq_isSome, hvalue, contains_eq_isSome]
    · exact insert_insert_of_foldKey_eq hkey p v w
    · exact insert_insert_of_foldKey_eq hkey.symm p v w
  · intro hapart p v
    have hkey : foldKey a ≠ foldKey b := fun he => (foldKey_eq_iff h).1 he hapart
    have hb := value?_insert_of_foldKey_ne hkey p v
    have ha := value?_insert_of_foldKey_ne hkey.symm p v
    refine ⟨?_, hb, ?_, ha⟩
    · rw [contains_eq_isSome, hb, contains_eq_isSome]
    · rw [contains_eq_isSome, ha, contains_eq_isSome]

/-- A capital sigma at the start of a word is the small one, and at its end it is another letter. -/
theorem keys_fold_letter_by_letter_sigma :
    SameLetters "x::ΣΑ".toList "X::σα".toList ∧ ¬ SigmaApart "x::ΣΑ".toList "X::σα".toList ∧
      (empty.insert "x::ΣΑ" "1").insert "X::σα" "2" = empty.insert "X::σα" "2" ∧
      SameLetters "x::ΑΣ".toList "X::ασ".toList ∧ SigmaApart "x::ΑΣ".toList "X::ασ".toList ∧
      (empty.insert "x::ΑΣ" "1").contains "X::ασ" = false := by
  have hstart : SameLetters "x::ΣΑ".toList "X::σα".toList := by decide +kernel
  have hend : SameLetters "x::ΑΣ".toList "X::ασ".toList := by decide +kernel
  have hone : ¬ SigmaApart "x::ΣΑ".toList "X::σα".toList := by decide +kernel
  have htwo : SigmaApart "x::ΑΣ".toList "X::ασ".toList := by decide +kernel
  obtain ⟨-, -, hoverwrite⟩ := (keys_fold_letter_by_letter hstart).1 hone empty
  obtain ⟨hunseen, -⟩ := (keys_fold_letter_by_letter hend).2 htwo empty "1"
  exact ⟨hstart, hone, (hoverwrite "1" "2").1, hend, htwo, hunseen⟩

/-- A key that ends in a small sigma is not found under its capitals. -/
theorem keys_not_fold_letter_by_letter :
    ¬ ∀ (p : Parameters) (a b : String), SameLetters a.toList b.toList →
      p.contains a = p.contains b ∧ p.value? a = p.value? b ∧
        ∀ v w, (p.insert a v).insert b w = p.insert b w := by
  intro h
  obtain ⟨hcontains, -⟩ := h (empty.insert "a::aσ" "1") "a::aσ" "A::AΣ" (by decide +kernel)
  revert hcontains
  decide +kernel

end

end GridSetup.Parameters
