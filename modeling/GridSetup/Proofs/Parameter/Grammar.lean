import GridSetup.Proofs.Parameter.Line
import GridSetup.Proofs.Text.CaseFolding

/-!
# The grammar of a line

A line has one of three forms. A comment is blanks and then `#` or `!`, whatever follows; a blank
line is nothing but blanks; an assignment has the parts of `Line.Parts`, one after the other.
`Line.Says` is the grammar that these forms make, and the scanner accepts exactly that.

The grammar speaks of characters alone, not of an order in which they are looked at, so two things
have to come out that the scanner takes for granted. A line has one form only, whichever is tried
first, and an assignment has its parts in one way only, whatever a run of blanks or of word
characters could be cut into. The first is a consequence of the scanner being a function. The second
is due to characters that the parts do not share: the first `=` of the line is the sign, a name
starts and ends with a word character, and a value does not start with a blank. A line feed is a
blank like any other until the value starts, and may not stand after that.

The keyword is given up to the case folding of Unicode, of which the scanner knows no more than the
letters of the keyword need.
-/

namespace GridSetup.Parameter

open GridSetup.Text

/-! ## Names -/

/-- A run of word characters. -/
def IsIdentifier (cs : List Char) : Prop :=
  cs ≠ [] ∧ ∀ c ∈ cs, isWord c = true

/-- Two identifiers with two colons between them, or the keyword in any case. -/
def SpellsName (name : List Char) : Prop :=
  (∃ a b, IsIdentifier a ∧ IsIdentifier b ∧ name = a ++ ':' :: ':' :: b) ∨
    foldCase name = foldCase "ActiveThorns".toList

theorem mem_keywordLetters_of_foldChar {c : Char} (h : foldChar c ∈ activeThornsKey.toList) :
    c ∈ keywordLetters := by
  have hall : ∀ d ∈ activeThornsKey.toList, d ≠ '\x00' ∧ d ∈ keywordLetters ∧
      (foldRuns ++ caseRuns).all (fun r => !r.contains (d.toNat - r.2.2.2).toNat ||
        keywordLetters.contains (Char.ofNat (d.toNat - r.2.2.2).toNat)) = true :=
    forall_mem_of_all (by decide +kernel)
  obtain ⟨hne, hself, hruns⟩ := hall _ h
  exact mem_of_foldChar_eq hne hself hruns rfl

/-- Folding the letters of the keyword is as good as folding all letters. -/
theorem isThornsKeyword_iff {w : List Char} :
    isThornsKeyword w = true ↔ foldCase w = foldCase "ActiveThorns".toList := by
  have hfold : ∀ c ∈ keywordLetters, foldChar c = foldKeywordChar c :=
    forall_mem_of_all (by decide)
  have hkey : foldCase "ActiveThorns".toList = activeThornsKey.toList := by decide
  rw [hkey, foldCase]
  constructor
  · intro h
    have hletters := mem_keywordLetters_of_isThornsKeyword h
    rw [List.map_congr_left fun c hc => hfold c (hletters c hc)]
    simpa [isThornsKeyword] using h
  · intro h
    have hletters : ∀ c ∈ w, c ∈ keywordLetters := by
      intro c hc
      apply mem_keywordLetters_of_foldChar
      rw [← h]
      exact List.mem_map_of_mem hc
    rw [isThornsKeyword, ← List.map_congr_left fun c hc => hfold c (hletters c hc), h]
    exact beq_self_eq_true _

theorem isName_iff {name : List Char} : IsName name ↔ SpellsName name := by
  constructor
  · intro h
    cases h with
    | pair ha hb hwa hwb => exact Or.inl ⟨_, _, ⟨ha, hwa⟩, ⟨hb, hwb⟩, rfl⟩
    | thorns hw => exact Or.inr (isThornsKeyword_iff.1 hw)
  · rintro (⟨a, b, ⟨ha, hwa⟩, ⟨hb, hwb⟩, rfl⟩ | h)
    · exact .pair ha hb hwa hwb
    · exact .thorns (isThornsKeyword_iff.2 h)

namespace Line

/-! ## Forms -/

/-- Blanks, and then a mark and anything. -/
def IsComment (cs : List Char) : Prop :=
  ∃ w c rest, AllBlank w ∧ (c = '#' ∨ c = '!') ∧ cs = w ++ c :: rest

/-- What an assignment consists of, its sign apart. -/
structure Parts where
  /-- The blanks before the name. -/
  start : List Char
  name : List Char
  /-- The blanks between the name and the sign. -/
  middle : List Char
  /-- The blanks between the sign and the value. -/
  gap : List Char
  value : List Char

namespace Parts

/-- What stands before the sign. -/
def head (p : Parts) : List Char :=
  p.start ++ (p.name ++ p.middle)

/-- The line that has these parts. -/
def text (p : Parts) : List Char :=
  p.head ++ '=' :: (p.gap ++ p.value)

/-- The parts are what the grammar wants in their places. -/
structure Fit (p : Parts) : Prop where
  start : AllBlank p.start
  name : SpellsName p.name
  middle : AllBlank p.middle
  gap : AllBlank p.gap
  value_head : ∀ c ∈ p.value.head?, isBlank c = false
  value_feed : '\n' ∉ p.value

/-- The assignment that the parts make. -/
def line (p : Parts) : Line :=
  .assignment (String.ofList (lowercase p.name)) (String.ofList p.value)

end Parts

/-- What the grammar lets a line say. -/
inductive Says : List Char → Line → Prop
  | comment {cs : List Char} (h : IsComment cs) : Says cs .comment
  | blank {cs : List Char} (h : AllBlank cs) : Says cs .blank
  | assignment {p : Parts} (h : p.Fit) : Says p.text p.line

theorem Says.exists_parts {cs : List Char} {key value : String}
    (h : Says cs (.assignment key value)) :
    ∃ p : Parts, p.Fit ∧ p.text = cs ∧ p.line = .assignment key value := by
  generalize hl : Line.assignment key value = l at h
  cases h with
  | comment h => cases hl
  | blank h => cases hl
  | @assignment p h => exact ⟨p, h, rfl, rfl⟩

/-! ## One way to take an assignment apart -/

theorem Parts.Fit.heads {p : Parts} (h : p.Fit) : Heads p.name p.head :=
  ⟨isName_iff.2 h.name, p.start, p.middle, h.start, h.middle, rfl⟩

/-- Blanks before a text that does not start with one end where it starts. -/
theorem append_inj_of_blank {w w' cs cs' : List Char} (hw : AllBlank w) (hw' : AllBlank w')
    (hcs : ∀ c ∈ cs.head?, isBlank c = false) (hcs' : ∀ c ∈ cs'.head?, isBlank c = false)
    (h : w ++ cs = w' ++ cs') : w = w' ∧ cs = cs' := by
  obtain ⟨htake, hdrop⟩ := takeWhile_append_stop hw hcs
  obtain ⟨htake', hdrop'⟩ := takeWhile_append_stop hw' hcs'
  rw [h] at htake hdrop
  exact ⟨htake.symm.trans htake', hdrop.symm.trans hdrop'⟩

theorem head?_append_of_isName {name : List Char} (h : IsName name) (rest : List Char) :
    ∀ c ∈ (name ++ rest).head?, isBlank c = false := by
  intro c hc
  obtain ⟨d, tail, rfl, hd⟩ := h.exists_cons
  obtain rfl : d = c := by simpa using hc
  exact isBlank_of_isWord hd

theorem Parts.eq_of_text {p q : Parts} (hp : p.Fit) (hq : q.Fit) (h : p.text = q.text) : p = q := by
  have hp' := hp.heads
  have hq' := hq.heads
  obtain ⟨hhead, hafter⟩ := cut_at_mark_unique hp'.sign_notMem hq'.sign_notMem h
  have hname : p.name = q.name := by rw [← hp'.trim_eq, hhead, hq'.trim_eq]
  obtain ⟨hstart, hrest⟩ := append_inj_of_blank hp.start hq.start
    (head?_append_of_isName hp'.isName p.middle) (head?_append_of_isName hq'.isName q.middle) hhead
  have hmiddle : p.middle = q.middle := by
    rw [hname] at hrest
    exact List.append_cancel_left hrest
  obtain ⟨hgap, hvalue⟩ :=
    append_inj_of_blank hp.gap hq.gap hp.value_head hq.value_head hafter
  cases p
  cases q
  simp only at hstart hname hmiddle hgap hvalue
  rw [hstart, hname, hmiddle, hgap, hvalue]

/-! ## The scanner accepts the grammar -/

theorem Says.ofChars?_eq {cs : List Char} {l : Line} (h : Says cs l) : ofChars? cs = some l := by
  cases h with
  | comment h =>
      obtain ⟨w, c, rest, hw, hmark, rfl⟩ := h
      have hblank : isBlank c = false := by
        rcases hmark with rfl | rfl <;> decide
      rw [ofChars?, trimStart_append hw, trimStart_cons_of_not_blank hblank]
      simp only [if_pos hmark]
  | blank h => rw [ofChars?, trimStart_eq_nil.2 h]
  | @assignment p h =>
      have hvalue : trimStart (p.gap ++ p.value) = p.value := by
        rw [trimStart_append h.gap, trimStart_eq_self h.value_head]
      have hfeed : '\n' ∉ trimStart (p.gap ++ p.value) := by
        rw [hvalue]
        exact h.value_feed
      rw [Parts.text, ofChars?_assignment h.heads hfeed, hvalue, foldKey_ofList]
      rfl

/-! ## The scanner accepts nothing else -/

theorem says_of_splitAssignment {cs w rest name value : List Char} (hw : AllBlank w)
    (hcs : cs = w ++ rest) (h : splitAssignment rest = some (name, value)) :
    Says cs (.assignment (foldKey (String.ofList name)) (String.ofList value)) := by
  obtain ⟨hname, w', after, hw', rfl, rfl, hfeed⟩ := splitAssignment_eq_some_iff.1 h
  obtain ⟨gap, hgap, hafter⟩ := exists_blank_append_trimStart after
  have hfit : Parts.Fit ⟨w, name, w', gap, trimStart after⟩ :=
    ⟨hw, isName_iff.1 hname, hw', hgap, head?_dropWhile, hfeed⟩
  have htext : Parts.text ⟨w, name, w', gap, trimStart after⟩ = cs := by
    rw [hcs, Parts.text, Parts.head, ← hafter, List.append_assoc, List.append_assoc]
  have hsays := Says.assignment hfit
  rw [htext, Parts.line, ← foldKey_ofList] at hsays
  exact hsays

theorem says_of_ofChars? {cs : List Char} {l : Line} (h : ofChars? cs = some l) : Says cs l := by
  obtain ⟨w, hw, hcs⟩ := exists_blank_append_trimStart cs
  rw [ofChars?] at h
  split at h
  · next hnil =>
      cases h
      exact .blank (trimStart_eq_nil.1 hnil)
  · next c rest hcons =>
      rw [hcons] at hcs
      split at h
      · next hmark =>
          cases h
          exact .comment ⟨w, c, rest, hw, hmark, hcs⟩
      · next hmark =>
          obtain ⟨⟨name, value⟩, hsplit, rfl⟩ := Option.map_eq_some_iff.1 h
          exact says_of_splitAssignment hw hcs hsplit

theorem ofChars?_eq_some_iff {cs : List Char} {l : Line} : ofChars? cs = some l ↔ Says cs l :=
  ⟨says_of_ofChars?, Says.ofChars?_eq⟩

theorem says_unique {cs : List Char} {l l' : Line} (h : Says cs l) (h' : Says cs l') : l = l' :=
  Option.some.inj (h.ofChars?_eq.symm.trans h'.ofChars?_eq)

/-- A line is read as what the grammar lets it say, and is malformed if that is nothing. It is not
let say two things, and an assignment is cut into its parts in one way. -/
theorem ofString?_grammar (line : String) :
    (∀ l, ofString? line = some l ↔ Says line.toList l) ∧
      (ofString? line = none ↔ ∀ l, ¬ Says line.toList l) ∧
      (∀ l l', Says line.toList l → Says line.toList l' → l = l') ∧
      ∀ p q : Parts, p.Fit → q.Fit → p.text = line.toList → q.text = line.toList → p = q := by
  refine ⟨fun l => ofChars?_eq_some_iff, ?_, fun l l' => says_unique, ?_⟩
  · rw [Option.eq_none_iff_forall_ne_some]
    exact forall_congr' fun l => not_congr ofChars?_eq_some_iff
  · intro p q hp hq htp htq
    exact Parts.eq_of_text hp hq (htp.trans htq.symm)

/-- Line feeds on both sides of the sign, and signs and marks in the value. -/
theorem ofString?_grammar_feeds :
    ∃ p : Parts, p.Fit ∧ p.text = "\u2003\nGrid::Type\u00a0\n=\n\t= Box #1 ".toList ∧
      ofString? "\u2003\nGrid::Type\u00a0\n=\n\t= Box #1 " =
        some (.assignment "grid::type" "= Box #1 ") ∧
      ∀ q : Parts, q.Fit → q.text = "\u2003\nGrid::Type\u00a0\n=\n\t= Box #1 ".toList → q = p := by
  obtain ⟨hread, -, -, hparts⟩ := ofString?_grammar "\u2003\nGrid::Type\u00a0\n=\n\t= Box #1 "
  have hname : SpellsName "Grid::Type".toList :=
    Or.inl ⟨"Grid".toList, "Type".toList, ⟨by decide, forall_mem_of_all (by decide +kernel)⟩,
      ⟨by decide, forall_mem_of_all (by decide +kernel)⟩, by decide⟩
  have hfit : Parts.Fit ⟨"\u2003\n".toList, "Grid::Type".toList, "\u00a0\n".toList,
      "\n\t".toList, "= Box #1 ".toList⟩ :=
    ⟨by decide, hname, by decide, by decide, by rintro c ⟨⟩; decide, by decide⟩
  refine ⟨_, hfit, by decide, (hread _).2 ?_, fun q hq htext => hparts q _ hq hfit htext (by decide)⟩
  have hline : Parts.line ⟨"\u2003\n".toList, "Grid::Type".toList, "\u00a0\n".toList,
      "\n\t".toList, "= Box #1 ".toList⟩ = .assignment "grid::type" "= Box #1 " := by
    decide +kernel
  rw [← hline]
  exact .assignment hfit

end Line

end GridSetup.Parameter
