import GridSetup.Proofs.Parameter.Grammar
import GridSetup.Proofs.Parameters.Entries

/-!
# The first fault of a text, or its last values

Reading goes from line to line with two things in hand, the parameters so far and the number of the
next line, and stops where a line is malformed. Neither is left to see in the outcome. What is wrong
with a text is the first malformed line and the number of lines before it, counted with comments and
blank lines (`addLines_eq_error_iff`). What a text sets, if nothing is wrong with it, is for each key
the value that is found first when one looks for it from the end (`addLines_eq_ok`).

Both are inductions over the lines that start from any parameters and any number. That is what makes
them say something about a text put after another one: the second half is read from where the first
half ended, so its faults come later by as many lines, and its values stand before those of the
first half.
-/

namespace GridSetup.Parameters

open GridSetup.Parameter GridSetup.Text

/-- The first malformed line among lines, as an error. -/
def FirstFault (ls : List String) (e : Error) : Prop :=
  ∃ before line after, ls = before ++ line :: after ∧ (∀ l ∈ before, Line.ofString? l ≠ none) ∧
    Line.ofString? line = none ∧ e = .malformedLine (before.length + 1) line

/-- The value that a line assigns to a key. -/
def assigned? (key line : String) : Option String :=
  match Line.ofString? line with
  | some (.assignment k value) => if k = key then some value else none
  | _ => none

/-- What is read from lines: raw values, of each key the last one assigned to it. -/
structure ReadFrom (ls : List String) (p : Parameters) : Prop where
  wellFormed : ∀ line ∈ ls, Line.ofString? line ≠ none
  raw : p.normalized = false
  keys : ∀ key, key ∈ p.entries.map Prod.fst ↔
    ∃ line ∈ ls, ∃ value, Line.ofString? line = some (.assignment key value)
  values : ∀ key value, (key, value) ∈ p.entries ↔
    ls.reverse.findSome? (assigned? key) = some value

/-! ## One line -/

/-- The parameters with what a line says. -/
def addLine (p : Parameters) : Line → Parameters
  | .assignment key value => p.insert key value
  | .comment => p
  | .blank => p

theorem addLines_cons_of_some {line : String} {l : Line} (h : Line.ofString? line = some l)
    (p : Parameters) (number : Nat) (rest : List String) :
    p.addLines number (line :: rest) = (p.addLine l).addLines (number + 1) rest := by
  rw [addLines, h]
  cases l <;> rfl

theorem addLines_cons_of_none {line : String} (h : Line.ofString? line = none) (p : Parameters)
    (number : Nat) (rest : List String) :
    p.addLines number (line :: rest) = .error (.malformedLine number line) := by
  rw [addLines, h]

theorem normalized_addLine (p : Parameters) (l : Line) :
    (p.addLine l).normalized = p.normalized := by
  cases l <;> rfl

/-- The key of an assignment is in lower case as it is. -/
theorem foldKey_of_assignment {line key value : String}
    (h : Line.ofString? line = some (.assignment key value)) : foldKey key = key := by
  obtain ⟨p, -, -, hp⟩ := (Line.says_of_ofChars? h).exists_parts
  obtain ⟨rfl, -⟩ := Line.assignment.inj hp
  rw [← foldKey_ofList, foldKey_foldKey]

theorem get?_addLine {p : Parameters} (hp : p.normalized = false) {line : String} {l : Line}
    (h : Line.ofString? line = some l) (key : String) :
    (p.addLine l).table.get? key = (assigned? key line).or (p.table.get? key) := by
  rw [assigned?, h]
  cases l with
  | comment => rfl
  | blank => rfl
  | assignment k value =>
      show (p.insert k value).table.get? key = (if k = key then some value else none).or _
      rw [insert, hp, Table.get?_insert, foldKey_of_assignment h]
      by_cases hk : k = key
      · rw [if_pos hk.symm, if_pos hk]
        rfl
      · rw [if_neg fun he => hk he.symm, if_neg hk]
        rfl

/-! ## Lines -/

theorem addLines_eq_error_iff {p : Parameters} {number : Nat} {ls : List String} {e : Error} :
    p.addLines number ls = .error e ↔
      ∃ before line after, ls = before ++ line :: after ∧
        (∀ l ∈ before, Line.ofString? l ≠ none) ∧ Line.ofString? line = none ∧
        e = .malformedLine (before.length + number) line := by
  induction ls generalizing p number with
  | nil =>
      constructor
      · intro h
        cases h
      · rintro ⟨before, line, after, h, -⟩
        simp at h
  | cons line rest ih =>
      cases hline : Line.ofString? line with
      | none =>
          rw [addLines_cons_of_none hline]
          constructor
          · intro h
            cases h
            exact ⟨[], line, rest, rfl, by simp, hline, by simp⟩
          · rintro ⟨before, bad, after, hls, hbefore, -, rfl⟩
            cases before with
            | nil =>
                cases hls
                simp
            | cons b bs =>
                cases hls
                exact absurd hline (hbefore line List.mem_cons_self)
      | some l =>
          rw [addLines_cons_of_some hline, ih]
          constructor
          · rintro ⟨before, bad, after, rfl, hbefore, hbad, rfl⟩
            refine ⟨line :: before, bad, after, rfl, ?_, hbad, ?_⟩
            · rw [List.forall_mem_cons, hline]
              exact ⟨Option.some_ne_none l, hbefore⟩
            · rw [List.length_cons, Nat.add_right_comm, Nat.add_assoc]
          · rintro ⟨before, bad, after, hls, hbefore, hbad, rfl⟩
            cases before with
            | nil =>
                cases hls
                rw [hline] at hbad
                cases hbad
            | cons b bs =>
                cases hls
                refine ⟨bs, bad, after, rfl, fun x hx => hbefore x (List.mem_cons_of_mem _ hx),
                  hbad, ?_⟩
                rw [List.length_cons, Nat.add_right_comm, Nat.add_assoc]

theorem addLines_eq_ok {p q : Parameters} {number : Nat} {ls : List String}
    (hp : p.normalized = false) (h : p.addLines number ls = .ok q) :
    (∀ line ∈ ls, Line.ofString? line ≠ none) ∧ q.normalized = false ∧
      ∀ key, q.table.get? key = (ls.reverse.findSome? (assigned? key)).or (p.table.get? key) := by
  induction ls generalizing p number with
  | nil =>
      cases h
      exact ⟨by simp, hp, fun key => rfl⟩
  | cons line rest ih =>
      cases hline : Line.ofString? line with
      | none =>
          rw [addLines_cons_of_none hline] at h
          cases h
      | some l =>
          rw [addLines_cons_of_some hline] at h
          obtain ⟨hrest, hraw, hget⟩ := ih ((normalized_addLine p l).trans hp) h
          refine ⟨?_, hraw, fun key => ?_⟩
          · rw [List.forall_mem_cons, hline]
            exact ⟨Option.some_ne_none l, hrest⟩
          · rw [hget, get?_addLine hp hline, List.reverse_cons, List.findSome?_append,
              Option.or_assoc]
            simp

/-- Lines are read or have a first fault, and that is decided by the lines alone. -/
theorem exists_addLines_eq_ok {ls : List String} (h : ∀ line ∈ ls, Line.ofString? line ≠ none)
    (p : Parameters) (number : Nat) : ∃ q, p.addLines number ls = .ok q := by
  cases hread : p.addLines number ls with
  | ok q => exact ⟨q, rfl⟩
  | error e =>
      obtain ⟨before, line, after, rfl, -, hbad, -⟩ := addLines_eq_error_iff.1 hread
      exact absurd hbad (h line (by simp))

theorem ofLines_eq_error_iff {ls : List String} {e : Error} :
    ofLines ls = .error e ↔ FirstFault ls e :=
  addLines_eq_error_iff

theorem get?_ofLines {ls : List String} {p : Parameters} (h : ofLines ls = .ok p) (key : String) :
    p.table.get? key = ls.reverse.findSome? (assigned? key) := by
  obtain ⟨-, -, hget⟩ := addLines_eq_ok rfl h
  rw [hget]
  exact Option.or_none

theorem isSome_assigned?_iff {key line : String} :
    (assigned? key line).isSome = true ↔
      ∃ value, Line.ofString? line = some (.assignment key value) := by
  rw [assigned?]
  split
  · next k value hline =>
      rw [hline]
      by_cases hk : k = key
      · rw [if_pos hk, hk]
        exact ⟨fun _ => ⟨value, rfl⟩, fun _ => rfl⟩
      · rw [if_neg hk]
        simp [hk]
  · next hother =>
      constructor
      · intro h
        cases h
      · rintro ⟨value, hline⟩
        exact absurd hline (hother key value)

theorem readFrom_of_ofLines {ls : List String} {p : Parameters} (h : ofLines ls = .ok p) :
    ReadFrom ls p := by
  obtain ⟨hwell, hraw, -⟩ := addLines_eq_ok rfl h
  refine ⟨hwell, hraw, fun key => ?_, fun key value => ?_⟩
  · rw [entries, Table.mem_keys_iff, get?_ofLines h, List.findSome?_isSome_iff]
    simp only [List.mem_reverse, isSome_assigned?_iff]
  · rw [entries, ← Table.get?_eq_some_iff, get?_ofLines h]

/-- What is read from lines is determined by them. -/
theorem ReadFrom.unique {ls : List String} {p q : Parameters} (hp : ReadFrom ls p)
    (hq : ReadFrom ls q) : p = q := by
  have htable : p.table = q.table := by
    apply Table.ext_get?
    intro key
    apply Option.ext
    intro value
    rw [Table.get?_eq_some_iff, Table.get?_eq_some_iff]
    exact (hp.values key value).trans (hq.values key value).symm
  have hraw := hp.raw.trans hq.raw.symm
  cases p
  cases q
  cases htable
  cases hraw
  rfl

theorem ofLines_eq_ok_iff {ls : List String} {p : Parameters} :
    ofLines ls = .ok p ↔ ReadFrom ls p := by
  constructor
  · exact readFrom_of_ofLines
  · intro h
    obtain ⟨q, hq⟩ := exists_addLines_eq_ok h.wellFormed empty 1
    have hread : ofLines ls = .ok q := hq
    rw [hread, (readFrom_of_ofLines hread).unique h]

/-! ## Lines after lines -/

theorem ofLines_append (xs ys : List String) :
    ofLines (xs ++ ys) = (ofLines xs).bind fun p => p.addLines (1 + xs.length) ys :=
  addLines_append empty 1 xs ys

theorem ofLines_append_error {xs ys : List String} {p : Parameters} {e : Error}
    (hx : ofLines xs = .ok p) (hy : ofLines ys = .error e) : ∃ n line,
      e = .malformedLine n line ∧ ofLines (xs ++ ys) = .error (.malformedLine (xs.length + n) line) := by
  obtain ⟨before, line, after, hys, hbefore, hbad, he⟩ := ofLines_eq_error_iff.1 hy
  refine ⟨before.length + 1, line, he, ?_⟩
  rw [ofLines_append, hx]
  refine addLines_eq_error_iff.2 ⟨before, line, after, hys, hbefore, hbad, ?_⟩
  rw [Nat.add_left_comm, Nat.add_comm 1]

theorem ofLines_append_ok {xs ys : List String} {p q : Parameters} (hx : ofLines xs = .ok p)
    (hy : ofLines ys = .ok q) : ∃ r, ofLines (xs ++ ys) = .ok r ∧ r.normalized = false ∧
      ∀ key, r.table.get? key = (q.table.get? key).or (p.table.get? key) := by
  have hp := readFrom_of_ofLines hx
  obtain ⟨r, hr⟩ := exists_addLines_eq_ok (readFrom_of_ofLines hy).wellFormed p (1 + xs.length)
  obtain ⟨-, hraw, hget⟩ := addLines_eq_ok hp.raw hr
  refine ⟨r, ?_, hraw, fun key => ?_⟩
  · rw [ofLines_append, hx]
    exact hr
  · rw [hget, get?_ofLines hy]

/-! ## Texts -/

theorem ofSource_of_cutInto {source : String} {ls : List String}
    (h : CutInto source.toList (ls.map String.toList)) : ofSource source = ofLines ls := by
  have hls : ls = (lines source.toList).map String.ofList := by
    rw [← cutInto_iff.1 h, List.map_map]
    simp
  rw [ofSource, hls]

theorem existsUnique_cutInto (source : String) :
    ∃! ls : List String, CutInto source.toList (ls.map String.toList) := by
  have hlines : ((lines source.toList).map String.ofList).map String.toList =
      lines source.toList := by
    rw [List.map_map]
    simp
  refine ⟨(lines source.toList).map String.ofList, ?_, fun ls h => ?_⟩
  · show CutInto _ _
    rw [hlines]
    exact cutInto_lines _
  · rw [← cutInto_iff.1 h, List.map_map]
    simp

/-- A text has its lines, and reading it ends with the first malformed one of them, or gives for
each key the last value assigned to it, as it stands. So lines after others are read like lines of
their own, with numbers that go on, and their values go before. -/
theorem ofSource_first_fault_or_last_values :
    (∀ source : String, ∃! ls : List String, CutInto source.toList (ls.map String.toList)) ∧
      (∀ (source : String) (ls : List String), CutInto source.toList (ls.map String.toList) →
        (∀ e, ofSource source = .error e ↔ FirstFault ls e) ∧
        ∀ p, ofSource source = .ok p ↔ ReadFrom ls p) ∧
      ∀ xs ys : List String,
        (∀ e, ofLines xs = .error e → ofLines (xs ++ ys) = .error e) ∧
        ∀ p, ofLines xs = .ok p →
          (∀ e, ofLines ys = .error e → ∃ n line, e = .malformedLine n line ∧
            ofLines (xs ++ ys) = .error (.malformedLine (xs.length + n) line)) ∧
          ∀ q, ofLines ys = .ok q → ∃ r, ofLines (xs ++ ys) = .ok r ∧ r.normalized = false ∧
            ∀ key, r.table.get? key = (q.table.get? key).or (p.table.get? key) := by
  refine ⟨existsUnique_cutInto, fun source ls h => ?_, fun xs ys => ⟨fun e he => ?_, ?_⟩⟩
  · rw [ofSource_of_cutInto h]
    exact ⟨fun e => ofLines_eq_error_iff, fun p => ofLines_eq_ok_iff⟩
  · rw [ofLines_append, he]
    rfl
  · intro p hp
    exact ⟨fun e hy => ofLines_append_error hp hy, fun q hq => ofLines_append_ok hp hq⟩

/-- A blank line counts and a carriage return before a line feed does not; two lines before a text
move its fault by two, and what they set gives way to it. -/
theorem ofSource_first_fault_or_last_values_numbers :
    ofSource "x::a = 1\r\n\nbad\nX::A" = .error (.malformedLine 3 "bad") ∧
      ofLines (["x::a = 1", ""] ++ ["X::A = 2", "bad"]) = .error (.malformedLine 4 "bad") ∧
      ∃ p r, ofSource "x::a = 1\r\n\n" = .ok p ∧ ReadFrom ["x::a = 1", ""] p ∧
        ofLines (["x::a = 1", ""] ++ ["X::A = 2\r"]) = .ok r ∧
        r.table.get? "x::a" = some "2\r" := by
  obtain ⟨-, hread, happend⟩ := ofSource_first_fault_or_last_values
  have hcut : CutInto "x::a = 1\r\n\nbad\nX::A".toList
      (["x::a = 1", "", "bad", "X::A"].map String.toList) := cutInto_iff.2 (by decide)
  have hfault : FirstFault ["x::a = 1", "", "bad", "X::A"] (.malformedLine 3 "bad") :=
    ⟨["x::a = 1", ""], "bad", ["X::A"], rfl, by decide +kernel, by decide +kernel, rfl⟩
  have hcut' : CutInto "x::a = 1\r\n\n".toList (["x::a = 1", ""].map String.toList) :=
    cutInto_iff.2 (by decide)
  have hlate : ofLines ["X::A = 2", "bad"] = .error (.malformedLine 2 "bad") :=
    ofLines_eq_error_iff.2 ⟨["X::A = 2"], "bad", [], rfl, by decide +kernel, by decide +kernel, rfl⟩
  obtain ⟨p, hp⟩ : ∃ p, ofLines ["x::a = 1", ""] = .ok p :=
    exists_addLines_eq_ok (by decide +kernel) empty 1
  obtain ⟨q, hq⟩ : ∃ q, ofLines ["X::A = 2\r"] = .ok q :=
    exists_addLines_eq_ok (by decide +kernel) empty 1
  have hsource : ofSource "x::a = 1\r\n\n" = .ok p := (ofSource_of_cutInto hcut').trans hp
  obtain ⟨n, line, he, hshift⟩ := ((happend ["x::a = 1", ""] _).2 p hp).1 _ hlate
  obtain ⟨rfl, rfl⟩ := Error.malformedLine.inj he
  obtain ⟨r, hr, -, hget⟩ := ((happend ["x::a = 1", ""] _).2 p hp).2 q hq
  refine ⟨((hread _ _ hcut).1 _).2 hfault, hshift, p, r, hsource,
    ((hread _ _ hcut').2 p).1 hsource, hr, ?_⟩
  rw [hget, get?_ofLines hq, get?_ofLines hp]
  decide +kernel

end GridSetup.Parameters
