import GridSetup.Proofs.Parameter.Name
import GridSetup.Proofs.Parameters.FirstWord
import Mathlib.Data.Set.Image

/-!
# What tidying forgets

Tidying forgets the quotes of a value, its outer blanks, and which of the words for true or for false
it was. What it forgets can be said without it. Take the quotes and then the blanks away, and two
values are tidied alike if the same text is left of both, or if what is left says the same of a flag.
The digits count among the words here, since a word and its digit come out the same
(`flagDigit_eq_iff`).

What comes out is a text without any of these things, and every such text comes out, since tidying
leaves it alone. So the tidy values are the values that are not changed, and `IsTidy` says which these
are.
-/

namespace GridSetup.Parameter

open GridSetup.Text

/-- What is left of a value when its quotes are taken out and then the blanks at its ends. -/
def bare (value : String) : List Char :=
  trim (unquote value.toList)

/-- A word for true in any ASCII case, or the digit for it. -/
def SaysTrue (cs : List Char) : Prop :=
  asciiLower cs ∈ trueWords ∨ cs = ['1']

/-- A word for false in any ASCII case, or the digit for it. -/
def SaysFalse (cs : List Char) : Prop :=
  asciiLower cs ∈ falseWords ∨ cs = ['0']

instance (cs : List Char) : Decidable (SaysTrue cs) :=
  inferInstanceAs (Decidable (_ ∨ _))

instance (cs : List Char) : Decidable (SaysFalse cs) :=
  inferInstanceAs (Decidable (_ ∨ _))

/-- A value with no quotes and no outer blanks that is no word for true or false. -/
structure IsTidy (value : String) : Prop where
  quote_notMem : '"' ∉ value.toList
  first : ∀ c ∈ value.toList.head?, isBlank c = false
  last : ∀ c ∈ value.toList.getLast?, isBlank c = false
  not_word : ¬ IsFlagWord value.toList

/-! ## Flags -/

theorem flagDigit_eq_one_iff {cs : List Char} : flagDigit cs = ['1'] ↔ SaysTrue cs := by
  constructor
  · intro h
    by_cases htrue : asciiLower cs ∈ trueWords
    · exact Or.inl htrue
    · by_cases hfalse : asciiLower cs ∈ falseWords
      · rw [flagDigit_of_false hfalse] at h
        simp at h
      · rw [flagDigit_of_not_isFlagWord (by simp [IsFlagWord, htrue, hfalse])] at h
        exact Or.inr h
  · rintro (htrue | rfl)
    · exact flagDigit_of_true htrue
    · decide

theorem flagDigit_eq_zero_iff {cs : List Char} : flagDigit cs = ['0'] ↔ SaysFalse cs := by
  constructor
  · intro h
    by_cases hfalse : asciiLower cs ∈ falseWords
    · exact Or.inl hfalse
    · by_cases htrue : asciiLower cs ∈ trueWords
      · rw [flagDigit_of_true htrue] at h
        simp at h
      · rw [flagDigit_of_not_isFlagWord (by simp [IsFlagWord, htrue, hfalse])] at h
        exact Or.inr h
  · rintro (hfalse | rfl)
    · exact flagDigit_of_false hfalse
    · decide

theorem flagDigit_eq_iff {xs ys : List Char} :
    flagDigit xs = flagDigit ys ↔
      xs = ys ∨ (SaysTrue xs ∧ SaysTrue ys) ∨ (SaysFalse xs ∧ SaysFalse ys) := by
  constructor
  · intro h
    rcases flagDigit_cases xs with hx | hx | hx
    · exact Or.inr (Or.inl ⟨flagDigit_eq_one_iff.1 hx, flagDigit_eq_one_iff.1 (h ▸ hx)⟩)
    · exact Or.inr (Or.inr ⟨flagDigit_eq_zero_iff.1 hx, flagDigit_eq_zero_iff.1 (h ▸ hx)⟩)
    · rcases flagDigit_cases ys with hy | hy | hy
      · exact Or.inr (Or.inl ⟨flagDigit_eq_one_iff.1 (h ▸ hy), flagDigit_eq_one_iff.1 hy⟩)
      · exact Or.inr (Or.inr ⟨flagDigit_eq_zero_iff.1 (h ▸ hy), flagDigit_eq_zero_iff.1 hy⟩)
      · left
        rw [← hx, h, hy]
  · rintro (rfl | ⟨hx, hy⟩ | ⟨hx, hy⟩)
    · rfl
    · rw [flagDigit_eq_one_iff.2 hx, flagDigit_eq_one_iff.2 hy]
    · rw [flagDigit_eq_zero_iff.2 hx, flagDigit_eq_zero_iff.2 hy]

theorem not_isFlagWord_flagDigit (cs : List Char) : ¬ IsFlagWord (flagDigit cs) := by
  by_cases h : IsFlagWord cs
  · rcases List.mem_append.1 h with htrue | hfalse
    · rw [flagDigit_of_true htrue]
      decide
    · rw [flagDigit_of_false hfalse]
      decide
  · rwa [flagDigit_of_not_isFlagWord h]

/-! ## Tidy values -/

theorem toList_tidy (value : String) : (tidy value).toList = flagDigit (bare value) := by
  rw [tidy, String.toList_ofList]
  rfl

theorem tidy_eq_tidy_iff {a b : String} :
    tidy a = tidy b ↔ flagDigit (bare a) = flagDigit (bare b) := by
  rw [← toList_tidy, ← toList_tidy, String.toList_inj]

theorem isBlank_of_mem_head?_trim {cs : List Char} : ∀ c ∈ (trim cs).head?, isBlank c = false := by
  rw [← trimStart_trim]
  exact head?_dropWhile

theorem isBlank_of_mem_getLast?_trim {cs : List Char} :
    ∀ c ∈ (trim cs).getLast?, isBlank c = false := by
  intro c hc
  obtain ⟨hne, rfl⟩ := List.mem_getLast?_eq_getLast hc
  have hcut : trim cs = (trim cs).rdropWhile isBlank := by
    rw [← trimEnd_eq_rdropWhile, trim, trimEnd_trimEnd]
  have hlast := List.rdropWhile_eq_self_iff.1 hcut.symm hne
  simpa using hlast

theorem isTidy_tidy (value : String) : IsTidy (tidy value) := by
  have hword : ¬ IsFlagWord (tidy value).toList := by
    rw [toList_tidy]
    exact not_isFlagWord_flagDigit _
  have hdigit : ∀ d ∈ ['1', '0'], d ≠ '"' ∧ isBlank d = false :=
    forall_mem_of_all (by decide)
  have hleft : ∀ d ∈ ['1', '0'], (tidy value).toList = [d] → IsTidy (tidy value) := by
    intro d hd h
    obtain ⟨hquote, hblank⟩ := hdigit d hd
    refine ⟨?_, ?_, ?_, hword⟩
    · simpa [h] using hquote.symm
    · simpa [h] using hblank
    · simpa [h] using hblank
  rcases flagDigit_cases (bare value) with h | h | h <;> rw [← toList_tidy] at h
  · exact hleft '1' (by simp) h
  · exact hleft '0' (by simp) h
  · refine ⟨?_, ?_, ?_, hword⟩ <;> rw [h]
    · exact fun hq => quote_notMem_unquote _ (mem_of_mem_trim hq)
    · exact isBlank_of_mem_head?_trim
    · exact isBlank_of_mem_getLast?_trim

theorem IsTidy.tidy_eq {value : String} (h : IsTidy value) : tidy value = value := by
  have hbare : bare value = value.toList := by
    rw [bare, unquote_eq_self h.quote_notMem, trim_eq_self h.first h.last]
  rw [← String.toList_inj, toList_tidy, hbare, flagDigit_of_not_isFlagWord h.not_word]

theorem isTidy_iff {value : String} : IsTidy value ↔ tidy value = value := by
  constructor
  · exact IsTidy.tidy_eq
  · intro h
    rw [← h]
    exact isTidy_tidy value

/-- Two values are tidied alike if they are the same text without quotes and outer blanks, or if both
say true or both say false. What comes out is tidy, and tidying it again changes nothing; so the values
that come out are the ones that tidying leaves alone, and these are the tidy ones. -/
theorem tidy_forgets_spelling :
    (∀ a b : String, tidy a = tidy b ↔
      bare a = bare b ∨ (SaysTrue (bare a) ∧ SaysTrue (bare b)) ∨
        (SaysFalse (bare a) ∧ SaysFalse (bare b))) ∧
      (∀ value : String, IsTidy (tidy value) ∧ tidy (tidy value) = tidy value) ∧
      Set.range tidy = {value | tidy value = value} ∧
      ∀ value : String, IsTidy value ↔ tidy value = value := by
  refine ⟨fun a b => tidy_eq_tidy_iff.trans flagDigit_eq_iff,
    fun value => ⟨isTidy_tidy value, tidy_tidy value⟩, ?_, fun value => isTidy_iff⟩
  ext value
  constructor
  · rintro ⟨raw, rfl⟩
    exact tidy_tidy raw
  · intro h
    exact ⟨value, h⟩

/-- The four words for each digit. A word is tidied like its digit in any case and whatever stands
around it, but not once it is cut in two, and no other word is. -/
theorem tidy_forgets_spelling_words :
    trueWords.map String.ofList = ["yes", "y", "true", "t"] ∧
      falseWords.map String.ofList = ["no", "n", "false", "f"] ∧
      tidy "\" \u2003T\"rUe\"\" " = tidy "yes" ∧ tidy "Y" = tidy "1" ∧
      tidy "\"faLse\"" = tidy "no" ∧ tidy "N" = tidy " 0" ∧
      tidy "tr ue" ≠ tidy "t" ∧ tidy "on" ≠ tidy "yes" ∧ tidy "F" ≠ tidy "T" := by
  obtain ⟨halike, -, -, -⟩ := tidy_forgets_spelling
  have htrue : ∀ a b, SaysTrue (bare a) → SaysTrue (bare b) → tidy a = tidy b :=
    fun a b ha hb => (halike a b).2 (.inr (.inl ⟨ha, hb⟩))
  have hfalse : ∀ a b, SaysFalse (bare a) → SaysFalse (bare b) → tidy a = tidy b :=
    fun a b ha hb => (halike a b).2 (.inr (.inr ⟨ha, hb⟩))
  refine ⟨by decide, by decide, htrue _ _ ?_ ?_, htrue _ _ ?_ ?_, hfalse _ _ ?_ ?_,
    hfalse _ _ ?_ ?_, mt (halike _ _).1 ?_, mt (halike _ _).1 ?_, mt (halike _ _).1 ?_⟩
  all_goals decide

end GridSetup.Parameter
