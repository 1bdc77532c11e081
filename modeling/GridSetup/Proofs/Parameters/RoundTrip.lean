import GridSetup.Command.Run
import GridSetup.Proofs.Parameters.Entries
import GridSetup.Proofs.Resolution.Stages

/-!
# Printed parameters read back as they were

The printer writes `key = value` and a line feed for every entry and escapes
nothing; the scanner knows nothing of the printer. That one inverts the other is
due to what can be in tidy parameters at all. A key is a name in lower case, so
it is scanned as a name and folded to itself. A tidy value has no line feed and
no blanks at its ends, so the rest of the line is the value and tidying leaves
it alone, whatever else is in it. And the keys of a table rise, so the entries
come back in their order and none replaces another.

`Printable` is this invariant of an entry. Every entry that a line makes has it,
and what has it is scanned back from its printed line.
-/

namespace GridSetup.Parameters

open GridSetup.Parameter GridSetup.Text

/-- An entry that its printed line says in full. -/
structure Printable (e : String × String) : Prop where
  name : IsName e.1.toList
  lower : lowercase e.1.toList = e.1.toList
  one_line : '\n' ∉ e.2.toList
  tidy : tidyChars e.2.toList = e.2.toList

/-! ## Every entry is printable -/

theorem printable_of_assigns {cs : List Char} {e : String × String}
    (h : Assigns cs e) : Printable e := by
  obtain ⟨name, head, after, hhead, -, hfeed, rfl⟩ := h
  have hvalue : '\n' ∉ tidyChars after := by
    rw [← tidyChars_trimStart]
    exact feed_notMem_tidyChars hfeed
  constructor <;> simp only [String.toList_ofList]
  · exact hhead.isName.lowercase
  · exact lowercase_lowercase name
  · exact hvalue
  · exact tidyChars_tidyChars after

theorem printable_of_mem_entries? {ls : List (List Char)}
    {es : List (String × String)} (h : entries? ls = some es) :
    ∀ e ∈ es, Printable e := by
  induction ls generalizing es with
  | nil =>
      cases h
      intro e he
      cases he
  | cons l ls ih =>
      rw [entries?] at h
      split at h
      · cases h
      · next here hl =>
          obtain ⟨rest, hrest, rfl⟩ := Option.map_eq_some_iff.1 h
          intro e he
          rcases List.mem_append.1 he with he | he
          · rcases Line.entries?_cases l with hs | ⟨e', he'⟩ | hnone
            · rw [Line.entries?_of_skipped hs] at hl
              cases hl
              cases he
            · rw [Line.entries?_of_assigns he'] at hl
              cases hl
              rw [List.mem_singleton.1 he]
              exact printable_of_assigns he'
            · rw [Line.entries?, hnone] at hl
              cases hl
          · exact ih hrest e he

theorem printable_of_tidyTable? {cs : List Char} {t : Table String}
    (h : tidyTable? cs = some t) : ∀ e ∈ t.toList, Printable e := by
  obtain ⟨es, hes, rfl⟩ := Option.map_eq_some_iff.1 h
  intro e he
  exact printable_of_mem_entries? hes e (Table.mem_of_mem_ofEntries he)

/-! ## A printable entry is scanned back -/

/-- The line that is printed for an entry, without its end. -/
def printedLine (e : String × String) : List Char :=
  e.1.toList ++ ' ' :: '=' :: ' ' :: e.2.toList

theorem Printable.assigns {e : String × String} (h : Printable e) :
    Assigns (printedLine e) e := by
  have hblank : AllBlank [' '] := allBlank_singleton (by decide)
  have hcut : trimStart (' ' :: e.2.toList) = trimStart e.2.toList :=
    trimStart_append hblank
  refine ⟨e.1.toList, e.1.toList ++ [' '], ' ' :: e.2.toList,
    ⟨h.name, [], [' '], allBlank_nil, hblank, rfl⟩, by simp [printedLine],
    ?_, ?_⟩
  · rw [hcut]
    exact fun hmem => h.one_line (mem_of_mem_trimStart hmem)
  · -- the blank after the sign is the printer's, and tidied away
    have hvalue : tidyChars (' ' :: e.2.toList) = tidyChars e.2.toList :=
      tidyChars_blank_append hblank e.2.toList
    rw [hvalue, h.lower, h.tidy, String.ofList_toList, String.ofList_toList]

theorem Printable.feed_notMem {e : String × String} (h : Printable e) :
    '\n' ∉ printedLine e := by
  have hfeed : isWord '\n' = false ∧ '\n' ≠ ':' := by decide +kernel
  intro hmem
  rcases List.mem_append.1 hmem with hkey | hrest
  · exact h.name.notMem hfeed hkey
  · have hvalue : '\n' ∈ e.2.toList := by simpa using hrest
    exact h.one_line hvalue

theorem entries?_printed {es : List (String × String)}
    (h : ∀ e ∈ es, Printable e) :
    entries? (es.map printedLine) = some es := by
  induction es with
  | nil => rfl
  | cons e es ih =>
      have he := h e List.mem_cons_self
      rw [List.map_cons, entries?_cons, Line.entries?_of_assigns he.assigns,
        ih fun e he => h e (List.mem_cons_of_mem _ he)]
      rfl

theorem toList_ofParameters (p : Parameters) :
    (PlainText.ofParameters p).toList = unlines (p.entries.map printedLine) := by
  rw [PlainText.ofParameters, String.toList_ofList, unlines, List.flatMap_map]
  rfl

theorem tidyTable?_printed {p : Parameters}
    (h : ∀ e ∈ p.entries, Printable e) :
    tidyTable? (PlainText.ofParameters p).toList = some p.table := by
  have hfeed : ∀ l ∈ p.entries.map printedLine, '\n' ∉ l := by
    intro l hl
    obtain ⟨e, he, rfl⟩ := List.mem_map.1 hl
    exact (h e he).feed_notMem
  rw [tidyTable?, toList_ofParameters, textEntries?_unlines hfeed,
    entries?_printed h]
  show some (Table.ofEntries p.table.toList) = some p.table
  rw [Table.ofEntries_toList]

/-! ## Round trips -/

theorem ofSourceNormalized_printed {source : String} {p : Parameters}
    (h : ofSourceNormalized source = .ok p) :
    ofSourceNormalized (PlainText.ofParameters p) = .ok p := by
  obtain ⟨t, ht, rfl⟩ := ofSourceNormalized_eq_ok_iff.1 h
  rw [ofSourceNormalized_eq_ok_iff]
  exact ⟨t, tidyTable?_printed (printable_of_tidyTable? ht), rfl⟩

/-- The params command prints one text for another, wherever that stands. -/
def PrintsAs (source text : String) : Prop :=
  ∀ files path, readParameterFile files path = .ok source →
    (Command.Request.params path).run files = .ok text

theorem printsAs_of_ofSourceNormalized {source : String} {p : Parameters}
    (h : ofSourceNormalized source = .ok p) :
    PrintsAs source (PlainText.ofParameters p) := by
  intro files path hfile
  rw [Command.Request.run, hfile]
  show (ofSourceNormalized source >>= fun p => pure _) = _
  rw [h]
  rfl

/-- What the parameters of a readable text are printed as is read as the same
parameters. So it is printed as itself, and it resolves as the text does, as do
the parameters that a resolution returns. -/
theorem printed_parameters_round_trip {source : String} (h : Readable source) :
    ∃ p, ofSourceNormalized source = .ok p ∧
      ofSourceNormalized (PlainText.ofParameters p) = .ok p ∧
      PrintsAs source (PlainText.ofParameters p) ∧
      PrintsAs (PlainText.ofParameters p) (PlainText.ofParameters p) ∧
      ∀ d, resolveSource d (PlainText.ofParameters p) =
          resolveSource d source ∧
        ∀ r, resolveSource d source = .ok r →
          resolveSource d (PlainText.ofParameters p) = .ok r ∧
          resolve d r.parameters = .ok r := by
  obtain ⟨es, hes⟩ := readable_iff.1 h
  obtain ⟨p, hp⟩ : ∃ p, ofSourceNormalized source = .ok p :=
    ⟨_, ofSourceNormalized_eq_ok_iff.2 ⟨_, by rw [tidyTable?, hes]; rfl, rfl⟩⟩
  have hprinted := ofSourceNormalized_printed hp
  have hsame : ∀ d, resolveSource d (PlainText.ofParameters p) =
      resolveSource d source := by
    intro d
    rw [resolveSource, resolveSource, hprinted, hp]
  refine ⟨p, hp, hprinted, printsAs_of_ofSourceNormalized hp,
    printsAs_of_ofSourceNormalized hprinted, fun d => ⟨hsame d, ?_⟩⟩
  intro r hr
  have hres : resolve d p = .ok r := by
    rw [resolveSource, hp] at hr
    exact hr
  refine ⟨(hsame d).trans hr, ?_⟩
  rw [resolve_parameters hres, resolve_normalize]
  exact hres

/-- A key in capitals, a flag that becomes a digit, a value that starts with the
sign, and no value at all. -/
theorem printed_parameters_round_trip_flag :
    Readable "A::b = \"Yes\" \r\nc::d ==# !\n! e\nactivethornſ=" ∧
      ∃ p, ofSourceNormalized
          "A::b = \"Yes\" \r\nc::d ==# !\n! e\nactivethornſ=" = .ok p ∧
        ofSourceNormalized (PlainText.ofParameters p) = .ok p := by
  have hread :
      Readable "A::b = \"Yes\" \r\nc::d ==# !\n! e\nactivethornſ=" := by
    unfold Readable
    decide +kernel
  obtain ⟨p, hp, hprinted, -⟩ := printed_parameters_round_trip hread
  exact ⟨hread, p, hp, hprinted⟩

end GridSetup.Parameters
