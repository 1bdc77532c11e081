import GridSetup.Proofs.Parameters.Entries
import GridSetup.Proofs.Resolution.Stages
import Mathlib.Logic.Relation

/-!
# The layout of a file does not reach the grid

Two texts are laid out differently when one comes from the other by edits that
a reader of parameter files would call cosmetic: blanks, quotes, comments, the
case of keys, line ends, the order of assignments, assignments that are
overridden. `LineEdit` lists those inside a line and `LayoutEdit` all of them,
each in one direction; a sequence of edits forwards and backwards is the
equivalence that `LayoutEdit` generates.

The invariant of an edit is the table of tidy values, malformed lines included.
Most edits do not even change the list of entries. Two of them do, and the
table is what forgets it: entries under different keys change places, and an
entry whose key comes again leaves no trace. From the table a readable text
resolves; a malformed one would report the number of a line, which is why only
readable texts are compared.
-/

namespace GridSetup.Parameters

open GridSetup.Parameter GridSetup.Text

/-! ## Edits inside a line -/

/-- A line edited in one place. What is done around the first sign is done to an
assignment; blanks at the ends may be put to any line. -/
inductive LineEdit : List Char → List Char → Prop
  | atStart {w line : List Char} (hw : AllBlank w) : LineEdit line (w ++ line)
  | atEnd {w line : List Char} (hw : AllBlank w) : LineEdit line (line ++ w)
  | beforeSign {w head after : List Char} {key : String} (hw : AllBlank w)
      (hhead : '=' ∉ head) (h : AssignsTo (head ++ '=' :: after) key) :
      LineEdit (head ++ '=' :: after) ((head ++ w) ++ '=' :: after)
  | afterSign {w head after : List Char} {key : String} (hw : AllBlank w)
      (hhead : '=' ∉ head) (h : AssignsTo (head ++ '=' :: after) key) :
      LineEdit (head ++ '=' :: after) (head ++ '=' :: (w ++ after))
  | keyCase {head head' after : List Char} {key : String}
      (hhead : '=' ∉ head) (h : AssignsTo (head ++ '=' :: after) key)
      (hcase : asciiLower head' = asciiLower head) :
      LineEdit (head ++ '=' :: after) (head' ++ '=' :: after)
  | quote {head before after : List Char} {key : String} (hhead : '=' ∉ head)
      (h : AssignsTo (head ++ '=' :: (before ++ after)) key) :
      LineEdit (head ++ '=' :: (before ++ after))
        (head ++ '=' :: (before ++ '"' :: after))

/-- The entry of an assignment on a line of its own. -/
theorem entries?_of_heads {name head after : List Char} (h : Heads name head)
    (hfeed : '\n' ∉ head ++ '=' :: after) :
    Line.entries? (head ++ '=' :: after) =
      some [(String.ofList (lowercase name),
        String.ofList (tidyChars after))] := by
  have hafter : '\n' ∉ after := fun hmem =>
    hfeed (List.mem_append_right head (List.mem_cons_of_mem _ hmem))
  exact Line.entries?_of_assigns ⟨name, head, after, h, rfl,
    fun hmem => hafter (mem_of_mem_trimStart hmem), rfl⟩

theorem exists_heads {head after : List Char} {key : String}
    (hhead : '=' ∉ head) (h : AssignsTo (head ++ '=' :: after) key) :
    ∃ name, Heads name head := by
  obtain ⟨value, name, head', after', hh, hcut, -, -⟩ := h.assigns
  obtain ⟨rfl, -⟩ := cut_at_mark_unique hhead hh.sign_notMem hcut
  exact ⟨name, hh⟩

theorem heads_append_blank {name head w : List Char} (h : Heads name head)
    (hw : AllBlank w) : Heads name (head ++ w) := by
  obtain ⟨hn, v, v', hv, hv', rfl⟩ := h
  exact ⟨hn, v, v' ++ w, hv, allBlank_append hv' hw, by simp⟩

theorem allBlank_of_asciiLower_eq {ws ws' : List Char} (h : AllBlank ws)
    (he : asciiLower ws' = asciiLower ws) : AllBlank ws' := by
  intro c hc
  have hmem : asciiLowerChar c ∈ asciiLower ws := by
    rw [← he]
    exact List.mem_map_of_mem hc
  obtain ⟨d, hd, hdc⟩ := List.mem_map.1 hmem
  rw [← isBlank_asciiLowerChar, ← hdc, isBlank_asciiLowerChar]
  exact h d hd

/-- In another case there is a name in the same place, with the same key. -/
theorem heads_of_asciiLower_eq {name head head' : List Char}
    (h : Heads name head) (he : asciiLower head' = asciiLower head) :
    ∃ name', Heads name' head' ∧ lowercase name' = lowercase name := by
  obtain ⟨hn, w, w', hw, hw', rfl⟩ := h
  rw [asciiLower, asciiLower, List.map_append, List.map_append] at he
  obtain ⟨v, t, rfl, hv, ht⟩ := List.map_eq_append_iff.1 he
  obtain ⟨name', v', rfl, hname, hv'⟩ := List.map_eq_append_iff.1 ht
  refine ⟨name', ⟨hn.of_asciiLower_eq hname, v, v',
    allBlank_of_asciiLower_eq hw hv, allBlank_of_asciiLower_eq hw' hv', rfl⟩, ?_⟩
  have hlower : asciiLower name' = asciiLower name := hname
  rw [← lowercase_asciiLower name', hlower, lowercase_asciiLower]

/-- An edited line makes the same entries. -/
theorem LineEdit.entries?_eq {a b : List Char} (h : LineEdit a b)
    (ha : '\n' ∉ a) (hb : '\n' ∉ b) : Line.entries? a = Line.entries? b := by
  cases h with
  | atStart hw => rw [Line.entries?_blank_append hw]
  | atEnd hw =>
      rw [Line.entries?_append_blank hw]
      exact fun hmem => hb (List.mem_append_right a hmem)
  | beforeSign hw hhead h =>
      obtain ⟨name, hh⟩ := exists_heads hhead h
      rw [entries?_of_heads hh ha,
        entries?_of_heads (heads_append_blank hh hw) hb]
  | afterSign hw hhead h =>
      obtain ⟨name, hh⟩ := exists_heads hhead h
      rw [entries?_of_heads hh ha, entries?_of_heads hh hb,
        tidyChars_blank_append hw]
  | keyCase hhead h hcase =>
      -- the blanks around the name are compared in lower case too, and are blank either way
      obtain ⟨name, hh⟩ := exists_heads hhead h
      obtain ⟨name', hh', hlower⟩ := heads_of_asciiLower_eq hh hcase
      rw [entries?_of_heads hh ha, entries?_of_heads hh' hb, hlower]
  | quote hhead h =>
      obtain ⟨name, hh⟩ := exists_heads hhead h
      rw [entries?_of_heads hh ha, entries?_of_heads hh hb, tidyChars_quote]

/-! ## Edits of a text -/

/-- A text edited in one place. -/
inductive LayoutEdit : List Char → List Char → Prop
  | line {pre a b post rest : List Char} (hpre : LineStart pre)
      (ha : '\n' ∉ a) (hb : '\n' ∉ b) (hpost : LineEnd post rest)
      (h : LineEdit a b) : LayoutEdit (pre ++ (a ++ post)) (pre ++ (b ++ post))
  /-- A comment or a blank line with its end, put before another line or after
  the last one. -/
  | insertLine {pre line post rest : List Char} (hpre : LineStart pre)
      (hfeed : '\n' ∉ line) (hpost : LineEnd post rest)
      (hline : Line.ofChars? line = some .comment ∨
        Line.ofChars? line = some .blank) :
      LayoutEdit (pre ++ rest) (pre ++ (line ++ post))
  /-- A comment or a blank line after a last line that has no end yet. -/
  | addLine {text line : List Char} (hfeed : '\n' ∉ line)
      (hline : Line.ofChars? line = some .comment ∨
        Line.ofChars? line = some .blank) :
      LayoutEdit text (text ++ '\n' :: line)
  /-- Two assignments one after the other, to different keys. -/
  | exchange {pre a b enda endb post rest : List Char} {k l : String}
      (hpre : LineStart pre) (ha : '\n' ∉ a) (hb : '\n' ∉ b)
      (henda : LineEnd enda (b ++ post)) (hendb : LineEnd endb (a ++ post))
      (hpost : LineEnd post rest) (hk : AssignsTo a k) (hl : AssignsTo b l)
      (hne : k ≠ l) : LayoutEdit (pre ++ (a ++ enda)) (pre ++ (b ++ endb))
  /-- An assignment whose key is assigned to again on a later line. -/
  | override {pre a enda mid b post rest : List Char} {k : String}
      (hpre : LineStart pre) (ha : '\n' ∉ a)
      (henda : LineEnd enda (mid ++ (b ++ post))) (hmid : LineStart mid)
      (hb : '\n' ∉ b) (hpost : LineEnd post rest) (hk : AssignsTo a k)
      (hl : AssignsTo b k) :
      LayoutEdit (pre ++ (a ++ enda)) (pre ++ (mid ++ (b ++ post)))
  | lineEnd (pre post : List Char) :
      LayoutEdit (pre ++ '\n' :: post) (pre ++ '\r' :: '\n' :: post)

theorem textEntries?_last {line : List Char} (h : '\n' ∉ line) :
    textEntries? line = Line.entries? line := by
  have hline := textEntries?_line h .text
  have hnone : textEntries? [] = some [] := rfl
  rwa [List.append_nil, hnone, append?_nil_right] at hline

/-- A text may be cut at any of its line feeds. -/
theorem textEntries?_feed (cs rest : List Char) :
    textEntries? (cs ++ '\n' :: rest) =
      append? (textEntries? cs) (textEntries? rest) := by
  induction cs using line_induction with
  | last line h => rw [textEntries?_line h (.feed rest), textEntries?_last h]
  | feed line post h ih =>
      have hcut : (line ++ '\n' :: post) ++ '\n' :: rest =
          line ++ '\n' :: (post ++ '\n' :: rest) := by simp
      rw [hcut, textEntries?_line h (.feed _), textEntries?_line h (.feed _), ih,
        append?_assoc]

/-- Blanks at the end of a text are at the end of its last line. -/
theorem textEntries?_append_blank {ws : List Char} (hw : AllBlank ws)
    (hfeed : '\n' ∉ ws) (cs : List Char) :
    textEntries? (cs ++ ws) = textEntries? cs := by
  induction cs using line_induction with
  | last line h =>
      have happend : '\n' ∉ line ++ ws := by
        intro hmem
        rcases List.mem_append.1 hmem with hmem | hmem
        · exact h hmem
        · exact hfeed hmem
      rw [textEntries?_last happend, textEntries?_last h,
        Line.entries?_append_blank hw hfeed]
  | feed line post h ih =>
      have hcut : (line ++ '\n' :: post) ++ ws =
          line ++ '\n' :: (post ++ ws) := by simp
      rw [hcut, textEntries?_line h (.feed _), textEntries?_line h (.feed _), ih]

theorem entries?_of_assignsTo {cs : List Char} {key : String}
    (h : AssignsTo cs key) :
    ∃ value, Line.entries? cs = some [(key, value)] := by
  obtain ⟨value, hvalue⟩ := h.assigns
  exact ⟨value, Line.entries?_of_assigns hvalue⟩

theorem entries?_of_nothing {line : List Char}
    (h : Line.ofChars? line = some .comment ∨
      Line.ofChars? line = some .blank) : Line.entries? line = some [] := by
  rw [Line.entries?]
  rcases h with h | h <;> rw [h] <;> rfl

/-! ## The table of tidy values stays -/

theorem tidyTable?_exchange {pre a b enda endb post rest : List Char}
    {k l : String} (hpre : LineStart pre) (ha : '\n' ∉ a) (hb : '\n' ∉ b)
    (henda : LineEnd enda (b ++ post)) (hendb : LineEnd endb (a ++ post))
    (hpost : LineEnd post rest) (hk : AssignsTo a k) (hl : AssignsTo b l)
    (hne : k ≠ l) :
    tidyTable? (pre ++ (a ++ enda)) = tidyTable? (pre ++ (b ++ endb)) := by
  obtain ⟨v, hv⟩ := entries?_of_assignsTo hk
  obtain ⟨w, hw⟩ := entries?_of_assignsTo hl
  rw [tidyTable?, tidyTable?, textEntries?_append hpre, textEntries?_append hpre,
    textEntries?_line ha henda, textEntries?_line hb hendb,
    textEntries?_line hb hpost, textEntries?_line ha hpost, hv, hw]
  cases textEntries? pre with
  | none => rfl
  | some es =>
      cases textEntries? rest with
      | none => rfl
      | some fs =>
          have hsame : Table.ofEntries (es ++ (k, v) :: (l, w) :: fs) =
              Table.ofEntries (es ++ (l, w) :: (k, v) :: fs) := by
            rw [Table.ofEntries, Table.ofEntries, Table.insertEntries_append,
              Table.insertEntries_append]
            simp only [Table.insertEntries_cons]
            rw [Table.insert_comm _ hne]
          exact congrArg some hsame

theorem tidyTable?_override {pre a enda mid b post rest : List Char}
    {k : String} (hpre : LineStart pre) (ha : '\n' ∉ a)
    (henda : LineEnd enda (mid ++ (b ++ post))) (hmid : LineStart mid)
    (hb : '\n' ∉ b) (hpost : LineEnd post rest) (hk : AssignsTo a k)
    (hl : AssignsTo b k) :
    tidyTable? (pre ++ (a ++ enda)) =
      tidyTable? (pre ++ (mid ++ (b ++ post))) := by
  obtain ⟨v, hv⟩ := entries?_of_assignsTo hk
  obtain ⟨w, hw⟩ := entries?_of_assignsTo hl
  have hlater : textEntries? (mid ++ (b ++ post)) =
      append? (textEntries? mid) (append? (some [(k, w)]) (textEntries? rest)) := by
    rw [textEntries?_append hmid, textEntries?_line hb hpost, hw]
  rw [tidyTable?, tidyTable?, textEntries?_append hpre, textEntries?_append hpre,
    textEntries?_line ha henda, hv, hlater]
  cases textEntries? pre with
  | none => rfl
  | some es =>
      cases textEntries? mid with
      | none => rfl
      | some ms =>
          cases textEntries? rest with
          | none => rfl
          | some fs =>
              have hagain : k ∈ (ms ++ (k, w) :: fs).map Prod.fst := by simp
              have hsame : Table.ofEntries (es ++ (k, v) :: (ms ++ (k, w) :: fs)) =
                  Table.ofEntries (es ++ (ms ++ (k, w) :: fs)) := by
                rw [Table.ofEntries, Table.ofEntries, Table.insertEntries_append,
                  Table.insertEntries_append, Table.insertEntries_cons,
                  Table.insertEntries_insert_of_mem _ v hagain]
              exact congrArg some hsame

/-- One edit. -/
theorem LayoutEdit.tidyTable?_eq {a b : List Char} (h : LayoutEdit a b) :
    tidyTable? a = tidyTable? b := by
  cases h with
  | line hpre ha hb hpost h =>
      rw [tidyTable?, tidyTable?, textEntries?_append hpre,
        textEntries?_append hpre, textEntries?_line ha hpost,
        textEntries?_line hb hpost, h.entries?_eq ha hb]
  | insertLine hpre hfeed hpost hline =>
      rw [tidyTable?, tidyTable?, textEntries?_append hpre,
        textEntries?_append hpre, textEntries?_line hfeed hpost,
        entries?_of_nothing hline, append?_nil]
  | addLine hfeed hline =>
      rw [tidyTable?, tidyTable?, textEntries?_feed, textEntries?_last hfeed,
        entries?_of_nothing hline, append?_nil_right]
  | exchange hpre ha hb henda hendb hpost hk hl hne =>
      exact tidyTable?_exchange hpre ha hb henda hendb hpost hk hl hne
  | override hpre ha henda hmid hb hpost hk hl =>
      exact tidyTable?_override hpre ha henda hmid hb hpost hk hl
  | lineEnd pre post =>
      -- seen from the line feed, a carriage return is one more blank before it
      have hreturn : AllBlank ['\r'] := allBlank_singleton (by decide)
      have hcut : pre ++ '\r' :: '\n' :: post =
          (pre ++ ['\r']) ++ '\n' :: post := by simp
      rw [hcut, tidyTable?, tidyTable?, textEntries?_feed, textEntries?_feed,
        textEntries?_append_blank hreturn (by decide)]

/-- A sequence of edits, each forwards or backwards. -/
theorem tidyTable?_eq_of_edits {a b : List Char}
    (h : Relation.EqvGen LayoutEdit a b) : tidyTable? a = tidyTable? b := by
  induction h with
  | rel a b h => exact h.tidyTable?_eq
  | refl a => rfl
  | symm a b _ ih => exact ih.symm
  | trans a b c _ _ ihab ihbc => exact ihab.trans ihbc

/-! ## Resolutions -/

/-- A text that is laid out differently is readable as well and resolves to the
same grid, or fails with the same error. -/
theorem resolveSource_eq_of_layout {a b : String} (ha : Readable a)
    (h : Relation.EqvGen LayoutEdit a.toList b.toList) :
    Readable b ∧ ∀ d, resolveSource d a = resolveSource d b := by
  obtain ⟨es, hes⟩ := readable_iff.1 ha
  have hta : tidyTable? a.toList = some (Table.ofEntries es) := by
    rw [tidyTable?, hes]
    rfl
  have htb : tidyTable? b.toList = some (Table.ofEntries es) := by
    rw [← tidyTable?_eq_of_edits h, hta]
  constructor
  · obtain ⟨fs, hfs, -⟩ := Option.map_eq_some_iff.1 htb
    exact readable_iff.2 ⟨fs, hfs⟩
  · intro d
    have hna := ofSourceNormalized_eq_ok_iff.2 ⟨_, hta, rfl⟩
    have hnb := ofSourceNormalized_eq_ok_iff.2 ⟨_, htb, rfl⟩
    rw [resolveSource, resolveSource, hna, hnb]

/-- A comment before the line, the key in capitals, and a carriage return. -/
theorem resolveSource_eq_of_layout_edited :
    Readable "a::b =1\n" ∧ Readable "! c\nA::b =1\r\n" ∧
      ∀ d, resolveSource d "a::b =1\n" =
        resolveSource d "! c\nA::b =1\r\n" := by
  have hread : Readable "a::b =1\n" := by
    unfold Readable
    decide +kernel
  have hkey : AssignsTo "a::b =1".toList "a::b" := ⟨"1", by decide +kernel⟩
  have hcomment : LayoutEdit "a::b =1\n".toList "! c\na::b =1\n".toList :=
    @LayoutEdit.insertLine [] "! c".toList _ _ lineStart_nil (by decide)
      (.feed "a::b =1\n".toList) (Or.inl (by decide +kernel))
  have hcase : LayoutEdit "! c\na::b =1\n".toList "! c\nA::b =1\n".toList :=
    .line (lineStart_feed "! c".toList) (by decide) (by decide) (.feed [])
      (@LineEdit.keyCase "a::b ".toList "A::b ".toList _ _ (by decide) hkey
        (by decide))
  have hend : LayoutEdit "! c\nA::b =1\n".toList "! c\nA::b =1\r\n".toList :=
    .lineEnd "! c\nA::b =1".toList []
  have hedits := (Relation.EqvGen.rel _ _ hcomment).trans _ _ _
    ((Relation.EqvGen.rel _ _ hcase).trans _ _ _ (.rel _ _ hend))
  obtain ⟨hread', hsame⟩ := resolveSource_eq_of_layout hread hedits
  exact ⟨hread, hread', hsame⟩

end GridSetup.Parameters
