import GridSetup.Parameters
import GridSetup.Proofs.Parameter.Line
import GridSetup.Proofs.Table
import GridSetup.Proofs.Text.Lines

/-!
# What a text sets

Reading a file keeps raw values in a store and tidies them at the end; a store that is tidied
already tidies each value on its way in. Both come to the same (`normalize_insert`), so the tidied
parameters of a text are a table of tidy entries, put in line by line. `tidyTable?` is that table,
and `ofSourceNormalized_eq_ok_iff` is the equation everything else about texts goes through.

A text is then taken apart where something happens in it: at the start of a line, and at the end of
that line. The end may have a carriage return or not, and it may be the end of the text. None of
this shows in the entries, because what is chomped off a line is blank.
-/

namespace GridSetup.Parameters

open GridSetup.Parameter GridSetup.Text

/-! ## Tidying and insertion change places -/

theorem normalize_of_normalized {p : Parameters} (h : p.normalized = true) : p.normalize = p := by
  rw [normalize, if_pos h]

theorem normalized_normalize (p : Parameters) : p.normalize.normalized = true := by
  rw [normalize]
  split
  · next h => exact h
  · rfl

theorem normalize_normalize (p : Parameters) : p.normalize.normalize = p.normalize :=
  normalize_of_normalized (normalized_normalize p)

theorem entries_normalize (p : Parameters) :
    p.normalize.entries =
      if p.normalized then p.entries else p.entries.map fun e => (e.1, tidy e.2) := by
  rw [normalize]
  split
  · rfl
  · rfl

theorem normalized_insert (p : Parameters) (key value : String) :
    (p.insert key value).normalized = p.normalized := rfl

theorem normalize_insert (p : Parameters) (key value : String) :
    (p.insert key value).normalize = p.normalize.insert key value := by
  cases hp : p.normalized with
  | true =>
      rw [normalize_of_normalized hp, normalize_of_normalized]
      exact (normalized_insert p key value).trans hp
  | false =>
      simp only [normalize, insert, hp, Bool.false_eq_true, if_false, if_true,
        Table.mapValues_insert]

theorem normalize_insertAll (p : Parameters) (pairs : List (String × String)) :
    (p.insertAll pairs).normalize = p.normalize.insertAll pairs := by
  induction pairs generalizing p with
  | nil => rfl
  | cons e rest ih =>
      rw [insertAll, List.foldl_cons]
      show ((p.insert e.1 e.2).insertAll rest).normalize = _
      rw [ih, normalize_insert]
      rfl

/-- The entry that a pair leaves in tidied parameters. -/
def tidyEntry (e : String × String) : String × String :=
  (foldKey e.1, tidy e.2)

theorem table_insertAll {p : Parameters} (h : p.normalized = true)
    (pairs : List (String × String)) :
    p.insertAll pairs = ⟨p.table.insertEntries (pairs.map tidyEntry), true⟩ := by
  induction pairs generalizing p with
  | nil =>
      cases p
      cases h
      rfl
  | cons e rest ih =>
      have hinsert : p.insert e.1 e.2 = ⟨p.table.insert (foldKey e.1) (tidy e.2), true⟩ := by
        rw [insert, h]
        rfl
      show (p.insert e.1 e.2).insertAll rest = _
      rw [hinsert, ih rfl]
      rfl

/-! ## Lines -/

theorem addLines_append (p : Parameters) (number : Nat) (xs ys : List String) :
    p.addLines number (xs ++ ys) =
      (p.addLines number xs).bind fun q => q.addLines (number + xs.length) ys := by
  induction xs generalizing p number with
  | nil => rfl
  | cons x xs ih =>
      have hlen : number + (x :: xs).length = number + 1 + xs.length := by
        rw [List.length_cons]
        omega
      rw [List.cons_append, addLines, addLines, hlen]
      split
      · rw [ih]
      · rw [ih]
      · rw [ih]
      · rfl

/-- The entries that lines make; none if one of them is malformed. -/
def entries? : List (List Char) → Option (List (String × String))
  | [] => some []
  | line :: rest =>
    match Line.entries? line with
    | none => none
    | some here => (entries? rest).map (here ++ ·)

/-- Entries and then more of them; none if either are none. -/
def append? (xs ys : Option (List (String × String))) : Option (List (String × String)) :=
  xs.bind fun es => ys.map (es ++ ·)

@[simp]
theorem append?_nil (ys : Option (List (String × String))) : append? (some []) ys = ys := by
  cases ys <;> rfl

@[simp]
theorem append?_nil_right (xs : Option (List (String × String))) :
    append? xs (some []) = xs := by
  cases xs with
  | none => rfl
  | some es => exact congrArg some (List.append_nil es)

@[simp]
theorem append?_some (es fs : List (String × String)) :
    append? (some es) (some fs) = some (es ++ fs) := rfl

theorem append?_assoc (xs ys zs : Option (List (String × String))) :
    append? (append? xs ys) zs = append? xs (append? ys zs) := by
  cases xs with
  | none => rfl
  | some es =>
      cases ys with
      | none => rfl
      | some fs =>
          cases zs with
          | none => rfl
          | some gs => simp

theorem entries?_cons (line : List Char) (rest : List (List Char)) :
    entries? (line :: rest) = append? (Line.entries? line) (entries? rest) := by
  rw [entries?]
  cases Line.entries? line <;> rfl

theorem entries?_append (xs ys : List (List Char)) :
    entries? (xs ++ ys) = append? (entries? xs) (entries? ys) := by
  induction xs with
  | nil => exact (append?_nil _).symm
  | cons x xs ih => rw [List.cons_append, entries?_cons, entries?_cons, ih, append?_assoc]

/-- Reading lines, seen through tidying: the entries are put in one after the other. -/
theorem normalize_addLines (p : Parameters) (number : Nat) (ls : List (List Char)) :
    (∃ es q, entries? ls = some es ∧ p.addLines number (ls.map String.ofList) = .ok q ∧
        q.normalize = ⟨p.normalize.table.insertEntries es, true⟩) ∨
      (∃ e, entries? ls = none ∧ p.addLines number (ls.map String.ofList) = .error e) := by
  induction ls generalizing p number with
  | nil =>
      refine Or.inl ⟨[], p, rfl, rfl, ?_⟩
      have hn := normalized_normalize p
      cases hp : p.normalize
      rw [hp] at hn
      cases hn
      rfl
  | cons l ls ih =>
      rw [entries?, Line.entries?, List.map_cons, addLines, Line.ofString?, String.toList_ofList]
      cases hl : Line.ofChars? l with
      | none => exact Or.inr ⟨_, rfl, rfl⟩
      | some line =>
          cases line with
          | comment =>
              rcases ih p (number + 1) with ⟨es, q, hes, hq, hn⟩ | ⟨e, hes, he⟩
              · exact Or.inl ⟨es, q, by simp [hes, Line.entries], hq, hn⟩
              · exact Or.inr ⟨e, by simp [hes], he⟩
          | blank =>
              rcases ih p (number + 1) with ⟨es, q, hes, hq, hn⟩ | ⟨e, hes, he⟩
              · exact Or.inl ⟨es, q, by simp [hes, Line.entries], hq, hn⟩
              · exact Or.inr ⟨e, by simp [hes], he⟩
          | assignment key value =>
              -- the raw value goes into the store; the tidy one is what tidying makes of it later
              rcases ih (p.insert key value) (number + 1) with ⟨es, q, hes, hq, hn⟩ | ⟨e, hes, he⟩
              · refine Or.inl ⟨(foldKey key, tidy value) :: es, q, by simp [hes, Line.entries], hq,
                  ?_⟩
                rw [hn, normalize_insert, insert, normalized_normalize]
                rfl
              · exact Or.inr ⟨e, by simp [hes], he⟩

/-! ## Texts -/

/-- The entries that the lines of a text make. -/
def textEntries? (cs : List Char) : Option (List (String × String)) :=
  entries? (lines cs)

/-- No line of a text is malformed. -/
def Readable (source : String) : Prop :=
  ∀ line ∈ lines source.toList, Line.ofChars? line ≠ none

theorem exists_entries?_iff {ls : List (List Char)} :
    (∃ es, entries? ls = some es) ↔ ∀ line ∈ ls, Line.ofChars? line ≠ none := by
  induction ls with
  | nil => simp [entries?]
  | cons l ls ih =>
      rw [List.forall_mem_cons, ← ih, entries?, Line.entries?]
      cases Line.ofChars? l with
      | none => simp
      | some line => simp

theorem readable_iff {source : String} :
    Readable source ↔ ∃ es, textEntries? source.toList = some es :=
  exists_entries?_iff.symm

/-- The tidy values that a text sets; none if a line is malformed. -/
def tidyTable? (cs : List Char) : Option (Table String) :=
  (textEntries? cs).map Table.ofEntries

theorem ofSource_cases (source : String) :
    (∃ t q, tidyTable? source.toList = some t ∧ ofSource source = .ok q ∧
        q.normalize = ⟨t, true⟩) ∨
      (∃ e, tidyTable? source.toList = none ∧ ofSource source = .error e) := by
  rcases normalize_addLines empty 1 (lines source.toList) with ⟨es, q, hes, hq, hn⟩ | ⟨e, hes, he⟩
  · exact Or.inl ⟨Table.ofEntries es, q, by rw [tidyTable?, textEntries?, hes]; rfl, hq, hn⟩
  · exact Or.inr ⟨e, by rw [tidyTable?, textEntries?, hes]; rfl, he⟩

/-- Reading a text succeeds with the table of its tidy values and nothing else. -/
theorem ofSourceNormalized_eq_ok_iff {source : String} {p : Parameters} :
    ofSourceNormalized source = .ok p ↔ ∃ t, tidyTable? source.toList = some t ∧ p = ⟨t, true⟩ := by
  rw [ofSourceNormalized]
  rcases ofSource_cases source with ⟨t, q, ht, hq, hn⟩ | ⟨e, ht, he⟩
  · rw [hq, ht]
    show Except.ok q.normalize = Except.ok p ↔ _
    rw [hn]
    constructor
    · intro h
      exact ⟨t, rfl, (Except.ok.inj h).symm⟩
    · rintro ⟨t', ht', rfl⟩
      rw [Option.some.inj ht']
  · rw [he, ht]
    constructor
    · intro h
      cases h
    · rintro ⟨t, ht', -⟩
      cases ht'

/-- The end of a line, and the text after it: a line feed with or without a carriage return before
it, or the end of the text. -/
inductive LineEnd : List Char → List Char → Prop
  | text : LineEnd [] []
  | feed (rest : List Char) : LineEnd ('\n' :: rest) rest
  | returnFeed (rest : List Char) : LineEnd ('\r' :: '\n' :: rest) rest

theorem textEntries?_append {pre : List Char} (h : LineStart pre) (post : List Char) :
    textEntries? (pre ++ post) = append? (textEntries? pre) (textEntries? post) := by
  rw [textEntries?, lines_append h, entries?_append, textEntries?, textEntries?]

theorem entries?_chomp (line : List Char) : Line.entries? (chomp line) = Line.entries? line := by
  obtain ⟨ws, hws, hfeed, hline⟩ := exists_chomp_append line
  conv_rhs => rw [hline, Line.entries?_append_blank hws hfeed]

/-- The first line of a text makes its entries whatever ends it. -/
theorem textEntries?_line {line post rest : List Char} (h : '\n' ∉ line) (hend : LineEnd post rest) :
    textEntries? (line ++ post) = append? (Line.entries? line) (textEntries? rest) := by
  cases hend with
  | text =>
      rw [List.append_nil, textEntries?, lines_line h]
      split
      · next hnil =>
          rw [hnil]
          rfl
      · exact entries?_cons line []
  | feed =>
      rw [textEntries?, lines_line_feed h, entries?_cons, entries?_chomp]
      rfl
  | returnFeed =>
      -- the carriage return belongs to the line as far as the cut goes, and is chomped off it
      have hfeed : '\n' ∉ line ++ ['\r'] := by simpa using h
      have hcut : line ++ '\r' :: '\n' :: rest = (line ++ ['\r']) ++ '\n' :: rest := by simp
      rw [textEntries?, hcut, lines_line_feed hfeed, chomp_append_return, entries?_cons]
      rfl

/-! ## Texts of lines -/

/-- The text of some lines, each with a line feed at its end. -/
def unlines (ls : List (List Char)) : List Char :=
  ls.flatMap (· ++ ['\n'])

theorem textEntries?_unlines {ls : List (List Char)} (h : ∀ l ∈ ls, '\n' ∉ l) :
    textEntries? (unlines ls) = entries? ls := by
  induction ls with
  | nil => rfl
  | cons l ls ih =>
      have hcut : unlines (l :: ls) = l ++ '\n' :: unlines ls := by simp [unlines]
      rw [hcut, textEntries?_line (h l List.mem_cons_self) (.feed _),
        ih fun m hm => h m (List.mem_cons_of_mem _ hm), entries?_cons]

end GridSetup.Parameters
