import GridSetup.Text.Blank
import Mathlib.Data.List.DropRight
import Mathlib.Data.List.TakeWhile

/-!
# Blanks at the ends of a text

`trim` is used at three places that must agree: on the value of a line, on the value of a setting
from the command line, and once more when values are tidied. What makes them agree is that blanks
put at either end of a text are never seen again, and that a second trim finds nothing to do. Both
are read off the two halves: `trimStart` is a `dropWhile`, and `trimEnd` is the same from the right,
which is where the library's lemmas come in.
-/

namespace GridSetup.Text

/-- A text of nothing but white space. -/
def AllBlank (cs : List Char) : Prop :=
  ∀ c ∈ cs, isBlank c = true

instance (cs : List Char) : Decidable (AllBlank cs) :=
  decidable_of_iff (cs.all isBlank = true) List.all_eq_true

theorem allBlank_nil : AllBlank [] := by
  intro c hc
  cases hc

theorem allBlank_singleton {c : Char} (h : isBlank c = true) : AllBlank [c] := by
  intro d hd
  rwa [List.mem_singleton.1 hd]

theorem allBlank_append {xs ys : List Char} (hx : AllBlank xs) (hy : AllBlank ys) :
    AllBlank (xs ++ ys) := by
  intro c hc
  rcases List.mem_append.1 hc with h | h
  · exact hx c h
  · exact hy c h

/-! ## The front -/

theorem trimStart_append {ws cs : List Char} (h : AllBlank ws) :
    trimStart (ws ++ cs) = trimStart cs :=
  List.dropWhile_append_of_pos h

theorem trimStart_eq_nil {cs : List Char} : trimStart cs = [] ↔ AllBlank cs :=
  List.dropWhile_eq_nil_iff

theorem trimStart_cons_of_not_blank {c : Char} {cs : List Char} (h : isBlank c = false) :
    trimStart (c :: cs) = c :: cs := by
  rw [trimStart, List.dropWhile_cons, if_neg (by simp [h])]

theorem trimStart_eq_self {cs : List Char} (h : ∀ c ∈ cs.head?, isBlank c = false) :
    trimStart cs = cs := by
  cases cs with
  | nil => rfl
  | cons c rest => exact trimStart_cons_of_not_blank (h c rfl)

/-- Trimming splits a text: some blanks, and a rest that does not start with one. -/
theorem exists_blank_append_trimStart (cs : List Char) :
    ∃ ws, AllBlank ws ∧ cs = ws ++ trimStart cs := by
  refine ⟨cs.takeWhile isBlank, fun c hc => List.mem_takeWhile_imp hc, ?_⟩
  exact List.takeWhile_append_dropWhile.symm

theorem not_blank_of_trimStart_eq_cons {cs rest : List Char} {c : Char}
    (h : trimStart cs = c :: rest) : isBlank c = false := by
  have hnot := List.head?_dropWhile_not isBlank cs
  rw [trimStart] at h
  rw [h] at hnot
  exact hnot

/-- What follows a text that is not all blank stays where it is. -/
theorem trimStart_append_of_not_allBlank {cs rest : List Char} (h : ¬ AllBlank cs) :
    trimStart (cs ++ rest) = trimStart cs ++ rest := by
  have hne : (cs.dropWhile isBlank).isEmpty = false := by
    rw [List.isEmpty_eq_false_iff]
    exact fun hnil => h (trimStart_eq_nil.1 hnil)
  rw [trimStart, List.dropWhile_append, hne]
  rfl

/-! ## The end -/

theorem trimEnd_eq_rdropWhile (cs : List Char) : trimEnd cs = cs.rdropWhile isBlank := by
  induction cs with
  | nil => rfl
  | cons c cs ih =>
      rw [trimEnd, ih, List.rdropWhile, List.rdropWhile, List.reverse_cons, List.dropWhile_append]
      cases hd : cs.reverse.dropWhile isBlank with
      | nil => cases hc : isBlank c <;> simp [hc]
      | cons d ds =>
          have hne : (d :: ds).reverse ≠ [] := by simp
          simp only [List.isEmpty_cons, Bool.false_eq_true, if_false, List.reverse_append]
          rfl

theorem trimEnd_append {cs ws : List Char} (h : AllBlank ws) :
    trimEnd (cs ++ ws) = trimEnd cs := by
  have hr : ∀ c ∈ ws.reverse, isBlank c = true := fun c hc => h c (List.mem_reverse.1 hc)
  rw [trimEnd_eq_rdropWhile, trimEnd_eq_rdropWhile, List.rdropWhile, List.rdropWhile,
    List.reverse_append, List.dropWhile_append_of_pos hr]

theorem trimEnd_isPrefix (cs : List Char) : trimEnd cs <+: cs := by
  rw [trimEnd_eq_rdropWhile]
  exact List.rdropWhile_prefix isBlank cs

theorem trimEnd_trimEnd (cs : List Char) : trimEnd (trimEnd cs) = trimEnd cs := by
  simp only [trimEnd_eq_rdropWhile]
  exact List.rdropWhile_idempotent isBlank cs

theorem exists_blank_append_trimEnd (cs : List Char) :
    ∃ ws, AllBlank ws ∧ cs = trimEnd cs ++ ws := by
  refine ⟨cs.rtakeWhile isBlank, fun c hc => List.mem_rtakeWhile_imp hc, ?_⟩
  rw [trimEnd_eq_rdropWhile]
  exact List.rdropWhile_append_rtakeWhile.symm

/-! ## Both -/

theorem trim_blank_append {ws cs : List Char} (h : AllBlank ws) : trim (ws ++ cs) = trim cs := by
  rw [trim, trimStart_append h, trim]

theorem trim_append_blank {cs ws : List Char} (h : AllBlank ws) : trim (cs ++ ws) = trim cs := by
  rw [trim, trim]
  by_cases hcs : AllBlank cs
  · rw [trimStart_append hcs, trimStart_eq_nil.2 h, trimStart_eq_nil.2 hcs]
  · rw [trimStart_append_of_not_allBlank hcs, trimEnd_append h]

theorem mem_of_mem_trimStart {c : Char} {cs : List Char} (h : c ∈ trimStart cs) : c ∈ cs := by
  exact (List.dropWhile_suffix isBlank).subset h

theorem mem_of_mem_trim {c : Char} {cs : List Char} (h : c ∈ trim cs) : c ∈ cs := by
  have hs : c ∈ trimStart cs := (trimEnd_isPrefix _).subset h
  exact mem_of_mem_trimStart hs

/-- The front of a trimmed text has no blank: cutting the end off leaves the first character. -/
theorem trimStart_trim (cs : List Char) : trimStart (trim cs) = trim cs := by
  obtain ⟨rest, hrest⟩ := trimEnd_isPrefix (trimStart cs)
  cases ht : trim cs with
  | nil => rfl
  | cons c tail =>
      rw [trim] at ht
      rw [ht] at hrest
      exact trimStart_cons_of_not_blank (not_blank_of_trimStart_eq_cons hrest.symm)

theorem trim_trim (cs : List Char) : trim (trim cs) = trim cs := by
  rw [trim, trimStart_trim, trim, trimEnd_trimEnd]

/-- A text is trimmed when its first and its last character are not blank. -/
theorem trim_eq_self {cs : List Char}
    (hfirst : ∀ c ∈ cs.head?, isBlank c = false)
    (hlast : ∀ c ∈ cs.getLast?, isBlank c = false) : trim cs = cs := by
  rw [trim, trimStart_eq_self hfirst, trimEnd_eq_rdropWhile, List.rdropWhile_eq_self_iff]
  intro hne
  rw [hlast _ (List.getLast?_eq_some_getLast hne)]
  simp

end GridSetup.Text
