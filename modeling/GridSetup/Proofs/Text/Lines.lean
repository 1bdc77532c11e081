import GridSetup.Proofs.Text.Blank
import GridSetup.Text.Lines
import Mathlib.Tactic.Common

/-!
# Cutting a text into lines, one line at a time

`lines` is defined by pieces that keep their line ends. What is used of it elsewhere are two
equations: the lines of a text that is cut at the start of a line are the lines of the two parts,
and the first line of a text is what stands before its first line feed, less one carriage return.
With these a text is taken apart wherever something is changed in it, and nothing else about
pieces is needed.
-/

namespace GridSetup.Text

/-- A text after which a line starts: nothing, or a text that ends with a line feed. -/
def LineStart (pre : List Char) : Prop :=
  pre = [] ∨ ∃ text, pre = text ++ ['\n']

/-- A line without the carriage return at its end, if it has one there. -/
def chomp (line : List Char) : List Char :=
  if line.getLast? = some '\r' then line.dropLast else line

theorem lineStart_nil : LineStart [] :=
  Or.inl rfl

theorem lineStart_feed (text : List Char) : LineStart (text ++ ['\n']) :=
  Or.inr ⟨text, rfl⟩

theorem lineStart_tail {c : Char} {cs : List Char} (h : LineStart (c :: cs)) : LineStart cs := by
  rcases h with h | ⟨text, h⟩
  · cases h
  · cases text with
    | nil =>
        cases h
        exact lineStart_nil
    | cons d ds =>
        cases h
        exact lineStart_feed ds

/-- What is chomped off is blank. -/
theorem exists_chomp_append (line : List Char) :
    ∃ ws, AllBlank ws ∧ '\n' ∉ ws ∧ line = chomp line ++ ws := by
  unfold chomp
  split
  · next h =>
      refine ⟨['\r'], allBlank_singleton (by decide), by decide, ?_⟩
      exact (List.dropLast_append_getLast? '\r' h).symm
  · exact ⟨[], allBlank_nil, by simp, by simp⟩

theorem chomp_append_return (line : List Char) : chomp (line ++ ['\r']) = line := by
  simp [chomp]

/-! ## Pieces -/

theorem pieces_ne_nil {cs : List Char} (h : cs ≠ []) : pieces cs ≠ [] := by
  cases cs with
  | nil => exact absurd rfl h
  | cons c cs =>
      rw [pieces]
      split
      · simp
      · split <;> simp

theorem pieces_append {pre : List Char} (h : LineStart pre) (post : List Char) :
    pieces (pre ++ post) = pieces pre ++ pieces post := by
  induction pre with
  | nil => rfl
  | cons c cs ih =>
      have htail := ih (lineStart_tail h)
      rw [List.cons_append, pieces, pieces]
      by_cases hc : c = '\n'
      · rw [if_pos hc, if_pos hc, htail]
        rfl
      · rw [if_neg hc, if_neg hc, htail]
        -- a character that is no line feed does not end the first part, so a piece follows it there
        have hcs : cs ≠ [] := by
          rintro rfl
          rcases h with h | ⟨text, h⟩
          · cases h
          · cases text with
            | nil => cases h; exact hc rfl
            | cons d ds => cases ds <;> cases h
        cases hp : pieces cs with
        | nil => exact absurd hp (pieces_ne_nil hcs)
        | cons p ps => rfl

theorem pieces_line {line : List Char} (h : '\n' ∉ line) :
    pieces line = if line = [] then [] else [line] := by
  induction line with
  | nil => rfl
  | cons c cs ih =>
      have hc : c ≠ '\n' := fun he => h (he ▸ List.mem_cons_self)
      have hcs := ih fun hm => h (List.mem_cons_of_mem _ hm)
      rw [pieces, if_neg hc, hcs, if_neg (List.cons_ne_nil c cs)]
      split
      · next hnil =>
          split at hnil
          · next he => rw [he]
          · cases hnil
      · next hnil =>
          split at hnil
          · cases hnil
          · cases hnil
            rfl

theorem pieces_line_feed {line : List Char} (h : '\n' ∉ line) :
    pieces (line ++ ['\n']) = [line ++ ['\n']] := by
  induction line with
  | nil => rfl
  | cons c cs ih =>
      have hc : c ≠ '\n' := fun he => h (he ▸ List.mem_cons_self)
      have hcs := ih fun hm => h (List.mem_cons_of_mem _ hm)
      rw [List.cons_append, pieces, if_neg hc, hcs]

/-! ## Lines -/

theorem lines_append {pre : List Char} (h : LineStart pre) (post : List Char) :
    lines (pre ++ post) = lines pre ++ lines post := by
  rw [lines, pieces_append h, List.map_append, lines, lines]

/-- The first line of a text ends before the first line feed. -/
theorem lines_line_feed {line : List Char} (h : '\n' ∉ line) (post : List Char) :
    lines (line ++ '\n' :: post) = chomp line :: lines post := by
  have hcut : line ++ '\n' :: post = (line ++ ['\n']) ++ post := by simp
  have hend : dropLineEnd (line ++ ['\n']) = chomp line := by simp [dropLineEnd, chomp]
  rw [hcut, lines_append (lineStart_feed line), lines, pieces_line_feed h, List.map_singleton, hend]
  rfl

/-- A text without a line feed is one line, or none if there is nothing in it. -/
theorem lines_line {line : List Char} (h : '\n' ∉ line) :
    lines line = if line = [] then [] else [line] := by
  have hend : dropLineEnd line = line := by
    rw [dropLineEnd, if_neg]
    intro hlast
    exact h (List.mem_of_getLast? hlast)
  rw [lines, pieces_line h]
  split
  · rfl
  · rw [List.map_singleton, hend]

/-- A text is a line without a line feed, or such a line, a line feed and a text. -/
theorem line_induction {P : List Char → Prop} (last : ∀ line, '\n' ∉ line → P line)
    (feed : ∀ line post, '\n' ∉ line → P post → P (line ++ '\n' :: post)) (cs : List Char) :
    P cs := by
  by_cases h : '\n' ∈ cs
  · obtain ⟨line, post, hcs, hline⟩ := List.eq_append_cons_of_mem h
    have hlen : post.length < cs.length := by
      rw [hcs, List.length_append, List.length_cons]
      omega
    rw [hcs]
    exact feed line post hline (line_induction last feed post)
  · exact last cs h
termination_by cs.length

theorem feed_notMem_chomp {line : List Char} (h : '\n' ∉ line) : '\n' ∉ chomp line := by
  obtain ⟨ws, -, -, hline⟩ := exists_chomp_append line
  intro hmem
  rw [hline] at h
  exact h (List.mem_append_left ws hmem)

theorem feed_notMem_of_mem_lines {cs : List Char} : ∀ line ∈ lines cs, '\n' ∉ line := by
  induction cs using line_induction with
  | last line h =>
      intro l hl
      rw [lines_line h] at hl
      split at hl
      · cases hl
      · rwa [List.mem_singleton.1 hl]
  | feed line post h ih =>
      intro l hl
      rw [lines_line_feed h] at hl
      rcases List.mem_cons.1 hl with rfl | hl
      · exact feed_notMem_chomp h
      · exact ih l hl

/-! ## Lines as a relation -/

/-- A text and its lines. A line feed ends a line, together with one carriage return before it, and
what follows the last line feed is a line unless it is nothing. -/
inductive CutInto : List Char → List (List Char) → Prop
  | nothing : CutInto [] []
  | last {line : List Char} (hne : line ≠ []) (h : '\n' ∉ line) : CutInto line [line]
  | feed {line rest : List Char} {ls : List (List Char)} (h : '\n' ∉ line)
      (hreturn : line.getLast? ≠ some '\r') (hrest : CutInto rest ls) :
      CutInto (line ++ '\n' :: rest) (line :: ls)
  | returnFeed {line rest : List Char} {ls : List (List Char)} (h : '\n' ∉ line)
      (hrest : CutInto rest ls) : CutInto (line ++ '\r' :: '\n' :: rest) (line :: ls)

theorem CutInto.lines_eq {cs : List Char} {ls : List (List Char)} (h : CutInto cs ls) :
    lines cs = ls := by
  induction h with
  | nothing => rfl
  | last hne h => rw [lines_line h, if_neg hne]
  | feed h hreturn _ ih => rw [lines_line_feed h, chomp, if_neg hreturn, ih]
  | @returnFeed line rest ls h _ ih =>
      have hcut : line ++ '\r' :: '\n' :: rest = (line ++ ['\r']) ++ '\n' :: rest := by simp
      have hfeed : '\n' ∉ line ++ ['\r'] := by simpa using h
      rw [hcut, lines_line_feed hfeed, chomp_append_return, ih]

theorem cutInto_lines (cs : List Char) : CutInto cs (lines cs) := by
  induction cs using line_induction with
  | last line h =>
      rw [lines_line h]
      split
      · next hnil =>
          rw [hnil]
          exact .nothing
      · next hne => exact .last hne h
  | feed line post h ih =>
      rw [lines_line_feed h, chomp]
      split
      · next hreturn =>
          have hline : line = line.dropLast ++ ['\r'] :=
            (List.dropLast_append_getLast? '\r' hreturn).symm
          have hcut : line ++ '\n' :: post = line.dropLast ++ '\r' :: '\n' :: post := by
            conv_lhs => rw [hline]
            simp
          rw [hcut]
          exact .returnFeed (fun hmem => h (List.dropLast_subset line hmem)) ih
      · next hreturn => exact .feed h hreturn ih

theorem cutInto_iff {cs : List Char} {ls : List (List Char)} : CutInto cs ls ↔ ls = lines cs := by
  constructor
  · intro h
    exact h.lines_eq.symm
  · rintro rfl
    exact cutInto_lines cs

theorem CutInto.feed_notMem {cs : List Char} {ls : List (List Char)} (h : CutInto cs ls) :
    ∀ line ∈ ls, '\n' ∉ line := by
  rw [← h.lines_eq]
  exact feed_notMem_of_mem_lines

end GridSetup.Text
