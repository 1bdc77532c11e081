import GridSetup.Parameter.Value
import GridSetup.Proofs.Text.Blank

/-!
# Tidying forgets quotes and outer blanks, once

Two facts carry everything said about values. A tidy value is left alone by tidying, and tidying
does not see quotes anywhere or blanks at the ends. The order in the definition, quotes first, is
what makes the second one hold: blanks that only a quote protected are outer blanks by the time
they are trimmed.
-/

namespace GridSetup.Parameter

open GridSetup.Text

theorem unquote_append (xs ys : List Char) : unquote (xs ++ ys) = unquote xs ++ unquote ys :=
  List.filter_append xs ys

theorem unquote_eq_self {cs : List Char} (h : '"' ∉ cs) : unquote cs = cs := by
  rw [unquote, List.filter_eq_self]
  intro c hc
  rw [decide_eq_true_eq]
  rintro rfl
  exact h hc

theorem quote_notMem_unquote (cs : List Char) : '"' ∉ unquote cs := by
  intro h
  have := (List.mem_filter.1 h).2
  simp at this

theorem allBlank_unquote {ws : List Char} (h : AllBlank ws) : AllBlank (unquote ws) :=
  fun c hc => h c (List.mem_of_mem_filter hc)

theorem tidyChars_blank_append {ws : List Char} (h : AllBlank ws) (cs : List Char) :
    tidyChars (ws ++ cs) = tidyChars cs := by
  rw [tidyChars, unquote_append, trim_blank_append (allBlank_unquote h), tidyChars]

theorem tidyChars_append_blank {ws : List Char} (h : AllBlank ws) (cs : List Char) :
    tidyChars (cs ++ ws) = tidyChars cs := by
  rw [tidyChars, unquote_append, trim_append_blank (allBlank_unquote h), tidyChars]

theorem tidyChars_trimStart (cs : List Char) : tidyChars (trimStart cs) = tidyChars cs := by
  obtain ⟨ws, hws, hcs⟩ := exists_blank_append_trimStart cs
  rw [← tidyChars_blank_append hws (trimStart cs), ← hcs]

theorem tidyChars_trim (cs : List Char) : tidyChars (trim cs) = tidyChars cs := by
  obtain ⟨ws, hws, hcs⟩ := exists_blank_append_trimEnd (trimStart cs)
  rw [← tidyChars_append_blank hws (trim cs), trim, ← hcs, tidyChars_trimStart]

/-- A quote is not seen, wherever it stands. -/
theorem tidyChars_quote (xs ys : List Char) :
    tidyChars (xs ++ '"' :: ys) = tidyChars (xs ++ ys) := by
  have hquote : unquote ('"' :: ys) = unquote ys := by simp [unquote]
  rw [tidyChars, unquote_append, hquote, ← unquote_append, tidyChars]

/-! ## Tidy values -/

theorem flagDigit_cases (cs : List Char) :
    flagDigit cs = ['1'] ∨ flagDigit cs = ['0'] ∨ flagDigit cs = cs := by
  rw [flagDigit]
  split
  · exact Or.inl rfl
  · split
    · exact Or.inr (Or.inl rfl)
    · exact Or.inr (Or.inr rfl)

theorem tidyChars_tidyChars (cs : List Char) : tidyChars (tidyChars cs) = tidyChars cs := by
  rcases flagDigit_cases (trim (unquote cs)) with h | h | h
  · rw [tidyChars, tidyChars, h]
    decide
  · rw [tidyChars, tidyChars, h]
    decide
  · have hquote : '"' ∉ trim (unquote cs) := fun hq =>
      quote_notMem_unquote cs (mem_of_mem_trim hq)
    rw [tidyChars, tidyChars, h, unquote_eq_self hquote, trim_trim, h]

theorem feed_notMem_tidyChars {cs : List Char} (h : '\n' ∉ cs) : '\n' ∉ tidyChars cs := by
  rcases flagDigit_cases (trim (unquote cs)) with hf | hf | hf
  · rw [tidyChars, hf]
    decide
  · rw [tidyChars, hf]
    decide
  · rw [tidyChars, hf]
    exact fun hn => h (List.mem_of_mem_filter (mem_of_mem_trim hn))

theorem tidy_ofList (cs : List Char) : tidy (String.ofList cs) = String.ofList (tidyChars cs) := by
  rw [tidy, String.toList_ofList]

theorem tidy_tidy (value : String) : tidy (tidy value) = tidy value := by
  have h : tidy value = String.ofList (tidyChars value.toList) := rfl
  rw [h, tidy_ofList, tidyChars_tidyChars]

end GridSetup.Parameter
