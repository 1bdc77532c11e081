import GridSetup.Proofs.Text.Blank

/-!
# Words and the blanks between them

A text is read in words at two places, all of them for the list of thorns and the first one for a
typed value. `Spaced` says of a list of words and a text what that means, without an order in which
characters are looked at: blanks and a word by turns, and after a word a blank or nothing. Every
text has its words in this sense and no others, and `words` finds them (`words_eq_iff`).

So the blanks at the ends of a text are never seen in its words (`words_trim`), because more of them
would be spaced out just as well.
-/

namespace GridSetup.Text

/-- A run of characters that are not blank. -/
def IsToken (cs : List Char) : Prop :=
  cs ≠ [] ∧ ∀ c ∈ cs, isBlank c = false

instance (cs : List Char) : Decidable (IsToken cs) :=
  decidable_of_iff (cs ≠ [] ∧ cs.all (fun c => !isBlank c) = true) (by simp [IsToken])

/-- What may follow a word: nothing, or a blank and anything. -/
def Stops (rest : List Char) : Prop :=
  ∀ c ∈ rest.head?, isBlank c = true

instance (rest : List Char) : Decidable (Stops rest) :=
  decidable_of_iff (rest.head?.all isBlank = true) (by cases rest <;> simp [Stops])

/-- Words in a text, with any blanks before, between and after them. -/
inductive Spaced : List (List Char) → List Char → Prop
  | blanks {ws : List Char} (h : AllBlank ws) : Spaced [] ws
  | word {lead word rest : List Char} {others : List (List Char)} (hlead : AllBlank lead)
      (hword : IsToken word) (hstop : Stops rest) (hrest : Spaced others rest) :
      Spaced (word :: others) (lead ++ (word ++ rest))

theorem stops_of_allBlank {cs : List Char} (h : AllBlank cs) : Stops cs :=
  fun c hc => h c (List.mem_of_mem_head? hc)

theorem stops_cons {c : Char} (h : isBlank c = true) (cs : List Char) : Stops (c :: cs) := by
  intro d hd
  obtain rfl : c = d := by simpa using hd
  exact h

theorem Stops.append_blank {rest ws : List Char} (h : Stops rest) (hws : AllBlank ws) :
    Stops (rest ++ ws) := by
  cases rest with
  | nil => exact stops_of_allBlank hws
  | cons c rest => exact h

theorem IsToken.exists_cons {word : List Char} (h : IsToken word) :
    ∃ c tail, word = c :: tail ∧ isBlank c = false := by
  obtain ⟨c, tail, rfl⟩ := List.exists_cons_of_ne_nil h.1
  exact ⟨c, tail, rfl, h.2 c List.mem_cons_self⟩

theorem IsToken.trimStart_append {word : List Char} (h : IsToken word) (rest : List Char) :
    trimStart (word ++ rest) = word ++ rest := by
  obtain ⟨c, tail, rfl, hc⟩ := h.exists_cons
  exact trimStart_cons_of_not_blank hc

theorem IsToken.trimStart_eq {word : List Char} (h : IsToken word) : trimStart word = word := by
  simpa using h.trimStart_append []

theorem IsToken.trim_eq {word : List Char} (h : IsToken word) : trim word = word :=
  trim_eq_self (fun c hc => h.2 c (List.mem_of_mem_head? hc))
    fun c hc => h.2 c (List.mem_of_mem_getLast? hc)

theorem IsToken.trimEnd_eq {word : List Char} (h : IsToken word) : trimEnd word = word := by
  have htrim := h.trim_eq
  rwa [trim, h.trimStart_eq] at htrim

/-! ## The words of a text -/

theorem words_cons_of_blank {c : Char} (h : isBlank c = true) (cs : List Char) :
    words (c :: cs) = words cs := by
  rw [words.eq_def]
  exact if_pos h

theorem words_cons_of_stops {c : Char} (hc : isBlank c = false) {rest : List Char}
    (h : Stops rest) : words (c :: rest) = [c] :: words rest := by
  rw [words.eq_def]
  simp only [hc, Bool.false_eq_true, if_false]
  split
  · next d tail w ws hwords => rw [if_pos (h d rfl), hwords]
  · rfl

theorem words_cons_cons {c d : Char} (hc : isBlank c = false) (hd : isBlank d = false)
    {cs w : List Char} {ws : List (List Char)} (h : words (d :: cs) = w :: ws) :
    words (c :: d :: cs) = (c :: w) :: ws := by
  rw [words.eq_def]
  simp only [hc, h, hd, Bool.false_eq_true, if_false]

theorem words_blank_append {ws : List Char} (h : AllBlank ws) (cs : List Char) :
    words (ws ++ cs) = words cs := by
  induction ws with
  | nil => rfl
  | cons c ws ih =>
      rw [List.cons_append, words_cons_of_blank (h c List.mem_cons_self)]
      exact ih fun d hd => h d (List.mem_cons_of_mem _ hd)

theorem words_token_append {word rest : List Char} (h : IsToken word) (hstop : Stops rest) :
    words (word ++ rest) = word :: words rest := by
  obtain ⟨hne, hchars⟩ := h
  induction word with
  | nil => exact absurd rfl hne
  | cons c tail ih =>
      have hc : isBlank c = false := hchars c List.mem_cons_self
      cases tail with
      | nil => exact words_cons_of_stops hc hstop
      | cons d tail =>
          have hd : isBlank d = false := hchars d (by simp)
          exact words_cons_cons hc hd
            (ih (List.cons_ne_nil d tail) fun x hx => hchars x (List.mem_cons_of_mem _ hx))

theorem words_token {word : List Char} (h : IsToken word) : words word = [word] := by
  have hword := words_token_append h (stops_of_allBlank allBlank_nil)
  rwa [List.append_nil] at hword

theorem Spaced.words_eq {ws : List (List Char)} {cs : List Char} (h : Spaced ws cs) :
    words cs = ws := by
  induction h with
  | @blanks ws h =>
      rw [← List.append_nil ws, words_blank_append h]
      rfl
  | word hlead hword hstop _ ih =>
      rw [words_blank_append hlead, words_token_append hword hstop, ih]

/-! ## Every text has its words -/

theorem Spaced.blank_cons {ws : List (List Char)} {cs : List Char} (h : Spaced ws cs) {c : Char}
    (hc : isBlank c = true) : Spaced ws (c :: cs) := by
  have hmore : ∀ {lead : List Char}, AllBlank lead → AllBlank (c :: lead) :=
    fun hlead => List.forall_mem_cons.2 ⟨hc, hlead⟩
  cases h with
  | blanks h => exact .blanks (hmore h)
  | word hlead hword hstop hrest => exact .word (hmore hlead) hword hstop hrest

/-- A character in front of a text that starts with a word belongs to that word. -/
theorem Spaced.token_cons {ws : List (List Char)} {c d : Char} {cs : List Char}
    (h : Spaced ws (d :: cs)) (hc : isBlank c = false) (hd : isBlank d = false) :
    ∃ w others, ws = w :: others ∧ Spaced ((c :: w) :: others) (c :: d :: cs) := by
  generalize htext : d :: cs = text at h
  cases h with
  | blanks h =>
      subst htext
      rw [h d List.mem_cons_self] at hd
      cases hd
  | @word lead word rest others hlead hword hstop hrest =>
      obtain rfl : lead = [] := by
        cases lead with
        | nil => rfl
        | cons b lead =>
            obtain ⟨rfl, -⟩ := List.cons.inj htext
            rw [hlead d List.mem_cons_self] at hd
            cases hd
      have hlonger : IsToken (c :: word) :=
        ⟨List.cons_ne_nil c word, List.forall_mem_cons.2 ⟨hc, hword.2⟩⟩
      exact ⟨word, others, rfl, .word allBlank_nil hlonger hstop hrest⟩

theorem exists_spaced (cs : List Char) : ∃ ws, Spaced ws cs := by
  induction cs with
  | nil => exact ⟨[], .blanks allBlank_nil⟩
  | cons c cs ih =>
      obtain ⟨ws, hws⟩ := ih
      cases hc : isBlank c with
      | true => exact ⟨ws, hws.blank_cons hc⟩
      | false =>
          have hone : IsToken [c] := ⟨List.cons_ne_nil c [], by simpa using hc⟩
          cases cs with
          | nil => exact ⟨[c] :: ws, .word allBlank_nil hone (stops_of_allBlank allBlank_nil) hws⟩
          | cons d rest =>
              cases hd : isBlank d with
              | true => exact ⟨[c] :: ws, .word allBlank_nil hone (stops_cons hd rest) hws⟩
              | false =>
                  obtain ⟨w, others, -, hlonger⟩ := hws.token_cons hc hd
                  exact ⟨(c :: w) :: others, hlonger⟩

/-- The words of a text are those that are spaced out in it. -/
theorem words_eq_iff {ws : List (List Char)} {cs : List Char} : words cs = ws ↔ Spaced ws cs := by
  constructor
  · rintro rfl
    obtain ⟨ws, hws⟩ := exists_spaced cs
    rwa [hws.words_eq]
  · exact Spaced.words_eq

/-! ## Blanks at the ends -/

theorem Spaced.append_blank {ws : List (List Char)} {cs : List Char} (h : Spaced ws cs)
    {finish : List Char} (hfinish : AllBlank finish) : Spaced ws (cs ++ finish) := by
  induction h with
  | blanks h => exact .blanks (allBlank_append h hfinish)
  | word hlead hword hstop _ ih =>
      rw [List.append_assoc, List.append_assoc]
      exact .word hlead hword (hstop.append_blank hfinish) ih

theorem words_append_blank {finish : List Char} (h : AllBlank finish) (cs : List Char) :
    words (cs ++ finish) = words cs :=
  words_eq_iff.2 ((words_eq_iff.1 rfl).append_blank h)

theorem words_trim (cs : List Char) : words (trim cs) = words cs := by
  obtain ⟨lead, hlead, hcs⟩ := exists_blank_append_trimStart cs
  obtain ⟨finish, hfinish, hstart⟩ := exists_blank_append_trimEnd (trimStart cs)
  calc words (trim cs)
      = words (trim cs ++ finish) := (words_append_blank hfinish _).symm
    _ = words (trimStart cs) := by rw [trim, ← hstart]
    _ = words (lead ++ trimStart cs) := (words_blank_append hlead _).symm
    _ = words cs := by rw [← hcs]

/-! ## The first word -/

theorem firstWord_token_append {word rest : List Char} (h : IsToken word) (hstop : Stops rest) :
    firstWord (word ++ rest) = some word := by
  have hchars : ∀ c ∈ word, (!isBlank c) = true := by
    intro c hc
    rw [h.2 c hc]
    rfl
  have hnone : rest.takeWhile (fun c => !isBlank c) = [] := by
    cases rest with
    | nil => rfl
    | cons c rest => simp [hstop c rfl]
  have htake : (word ++ rest).takeWhile (fun c => !isBlank c) = word := by
    rw [List.takeWhile_append_of_pos hchars, hnone, List.append_nil]
  rw [firstWord, h.trimStart_append]
  obtain ⟨c, tail, rfl, -⟩ := h.exists_cons
  exact congrArg some htake

theorem firstWord_token {word : List Char} (h : IsToken word) : firstWord word = some word := by
  simpa using firstWord_token_append h (stops_of_allBlank allBlank_nil)

end GridSetup.Text
