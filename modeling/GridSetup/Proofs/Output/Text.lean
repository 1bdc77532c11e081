import GridSetup.Output.Text
import GridSetup.Proofs.Decimal.Layout
import GridSetup.Proofs.Parameter.Name
import GridSetup.Proofs.Text.Lines

/-!
# A hierarchy is known by its text

The text of a hierarchy has four lines, then perhaps a line for the identity, then eleven more. The
identity stands there as it is, so with feeds in it its line is any number of lines, and these may
look like the lines that follow or like no identity at all. It does not matter what they look like.
Every other line is one line whatever its value, so the first four and the last eleven lines of the
text are where they are, and what is left between them is the identity's (`frame_unique`).

A line gives its value back, since the name before it is known. In a list no entry has a comma, so
with the number of entries known a list is cut at its commas in one way (`bracketed_map_inj`), and
an entry is known by its text: an integer because it is read back, a real number because its
shortest decimal rounds to nothing else.
-/

namespace GridSetup.PlainText

open Text Decimal Binary Parameter

/-! ## Real numbers -/

/-- The text of a magnitude. -/
def writeMagnitude (code : Nat) : List Char :=
  if code = double.infinityCode then realStyle.infinite.toList else realStyle.writeFinite code

theorem writeReal_of_notANumber {x : Float} (h : double.infinityCode < codeOf x) :
    writeReal x = ['N', 'a', 'N'] := by
  rw [writeReal, RealStyle.write, if_pos h]
  rfl

theorem writeReal_of_number {x : Float} (h : ¬ double.infinityCode < codeOf x) :
    writeReal x =
      if isNegative x then '-' :: writeMagnitude (codeOf x) else writeMagnitude (codeOf x) := by
  rw [writeReal, RealStyle.write, if_neg h]
  rfl

theorem mem_writeMagnitude {code : Nat} {c : Char} (h : c ∈ writeMagnitude code) :
    c.isDigit = true ∨ c ∈ ['.', 'i', 'n', 'f'] := by
  rw [writeMagnitude] at h
  split at h
  · exact Or.inr (List.mem_cons_of_mem '.' h)
  · refine (RealStyle.mem_writeFinite rfl rfl h).imp_right ?_
    rintro rfl
    exact List.mem_cons_self

theorem writeMagnitude_inj {a b : Nat} (h : writeMagnitude a = writeMagnitude b) : a = b := by
  have hletter : ∀ code, 'i' ∉ realStyle.writeFinite code := by
    intro code hmem
    rcases RealStyle.mem_writeFinite rfl rfl hmem with hi | hi <;> cases hi
  have hinfinite : 'i' ∈ realStyle.infinite.toList := by decide
  rw [writeMagnitude, writeMagnitude] at h
  split at h
  · next ha =>
      split at h
      · next hb => exact ha.trans hb.symm
      · exact absurd (h ▸ hinfinite) (hletter b)
  · split at h
    · exact absurd (h ▸ hinfinite) (hletter a)
    · exact RealStyle.writeFinite_inj rfl rfl h

/-- What is not written in a magnitude: a sign, and the word for what is no number. -/
theorem notMem_writeMagnitude {c : Char} (hdigit : c.isDigit = false)
    (hc : c ∉ ['.', 'i', 'n', 'f']) (code : Nat) : c ∉ writeMagnitude code := by
  intro h
  rcases mem_writeMagnitude h with h | h
  · rw [hdigit] at h
    cases h
  · exact hc h

theorem writeReal_eq_iff {x : Float} :
    writeReal x = ['N', 'a', 'N'] ↔ double.infinityCode < codeOf x := by
  refine ⟨fun h => ?_, writeReal_of_notANumber⟩
  by_contra hx
  have hletter : 'N' ∈ writeReal x := by simp [h]
  have hmagnitude := notMem_writeMagnitude (c := 'N') (by decide) (by decide) (codeOf x)
  rw [writeReal_of_number hx] at hletter
  split at hletter
  · simp [hmagnitude] at hletter
  · exact hmagnitude hletter

/-- Two real numbers with one text are one. A zero and its negative are two, and there is one
that is no number. -/
theorem writeReal_inj {x y : Float} (h : writeReal x = writeReal y) : x = y := by
  have hkind : double.infinityCode < codeOf x ↔ double.infinityCode < codeOf y := by
    rw [← writeReal_eq_iff, h, writeReal_eq_iff]
  by_cases hx : double.infinityCode < codeOf x
  · exact eq_of_infinityCode_lt hx (hkind.1 hx)
  · have hminus := notMem_writeMagnitude (c := '-') (by decide) (by decide)
    rw [writeReal_of_number hx, writeReal_of_number (mt hkind.2 hx)] at h
    cases hsx : isNegative x <;> cases hsy : isNegative y <;>
      simp only [hsx, hsy, if_true, if_false, Bool.false_eq_true] at h
    · exact eq_of_codeOf_eq (writeMagnitude_inj h) (hsx.trans hsy.symm)
    · exact absurd (h ▸ List.mem_cons_self) (hminus (codeOf x))
    · exact absurd (h ▸ List.mem_cons_self) (hminus (codeOf y))
    · exact eq_of_codeOf_eq (writeMagnitude_inj (List.cons.inj h).2) (hsx.trans hsy.symm)

/-! ## Texts of numbers -/

/-- The characters of numbers. -/
def numberChars : List Char :=
  numerals ++ ['.', 'i', 'n', 'f', 'N', 'a']

/-- A text in which nothing but characters of numbers occurs. -/
def NumberText (cs : List Char) : Prop :=
  ∀ c ∈ cs, c ∈ numberChars

theorem NumberText.notMem {cs : List Char} (h : NumberText cs) {c : Char} (hc : c ∉ numberChars) :
    c ∉ cs :=
  fun hmem => hc (h c hmem)

theorem mem_numberChars_of_isDigit {c : Char} (h : c.isDigit = true) : c ∈ numberChars :=
  List.mem_append_left _ (mem_numerals_of_isDigit h)

theorem numberText_writeNat (n : Nat) : NumberText (writeNat n) :=
  fun _ hc => mem_numberChars_of_isDigit (isDigit_of_mem_writeNat hc)

theorem numberText_writeInt (n : Int) : NumberText (writeInt n) :=
  fun _ hc => List.mem_append_left _ (mem_numerals_of_mem_writeInt hc)

theorem numberText_writeMagnitude (code : Nat) : NumberText (writeMagnitude code) := by
  intro c hc
  rcases mem_writeMagnitude hc with hc | hc
  · exact mem_numberChars_of_isDigit hc
  · have hwords : ∀ c ∈ ['.', 'i', 'n', 'f'], c ∈ numberChars := by simp [numberChars]
    exact hwords c hc

theorem numberText_writeReal (x : Float) : NumberText (writeReal x) := by
  intro c hc
  by_cases hx : double.infinityCode < codeOf x
  · rw [writeReal_of_notANumber hx] at hc
    have hword : ∀ c ∈ ['N', 'a', 'N'], c ∈ numberChars := by simp [numberChars]
    exact hword c hc
  · rw [writeReal_of_number hx] at hc
    split at hc
    · rcases List.mem_cons.1 hc with rfl | hc
      · decide
      · exact numberText_writeMagnitude _ c hc
    · exact numberText_writeMagnitude _ c hc

theorem writeNat_inj {m n : Nat} (h : writeNat m = writeNat n) : m = n := by
  have hread := readDigits_writeNat m
  rw [h, readDigits_writeNat] at hread
  exact (Option.some.inj hread).symm

theorem writeInt_inj {m n : Int} (h : writeInt m = writeInt n) : m = n := by
  have hread := readInt_writeInt m
  rw [h, readInt_writeInt] at hread
  exact (Option.some.inj hread).symm

/-! ## Lists in brackets -/

section

variable {α : Type} {write : α → List Char} (htext : ∀ a, NumberText (write a))
  (hinj : ∀ {a b}, write a = write b → a = b)
include htext hinj

/-- Entries without commas are found again if their number is known: without it, no entries and one
empty entry are the same. -/
theorem intercalate_map_inj {xs ys : List α} (hlen : xs.length = ys.length)
    (h : [',', ' '].intercalate (xs.map write) = [',', ' '].intercalate (ys.map write)) :
    xs = ys := by
  have hcomma : ∀ a, ',' ∉ write a := fun a => (htext a).notMem (by decide)
  induction xs generalizing ys with
  | nil => exact (List.length_eq_zero_iff.1 hlen.symm).symm
  | cons x xs ih =>
      obtain _ | ⟨y, ys⟩ := ys
      · cases hlen
      · have hrest : xs.length = ys.length := Nat.succ.inj hlen
        rw [List.map_cons, List.map_cons] at h
        obtain _ | ⟨x', xs⟩ := xs
        · obtain rfl := List.length_eq_zero_iff.1 hrest.symm
          rw [List.map_nil, List.intercalate_singleton, List.intercalate_singleton] at h
          rw [hinj h]
        · obtain _ | ⟨y', ys⟩ := ys
          · cases hrest
          · rw [List.map_cons, List.map_cons, List.intercalate_cons_cons,
              List.intercalate_cons_cons, List.append_assoc, List.append_assoc] at h
            obtain ⟨hfirst, hblank⟩ := cut_at_mark_unique (hcomma x) (hcomma y) h
            rw [hinj hfirst, ih hrest (List.cons.inj hblank).2]

theorem bracketed_map_inj {xs ys : List α} (hlen : xs.length = ys.length)
    (h : bracketed (xs.map write) = bracketed (ys.map write)) : xs = ys :=
  intercalate_map_inj htext hinj hlen (List.append_cancel_right (List.cons.inj h).2)

omit hinj in
theorem feed_notMem_bracketed (xs : List α) : '\n' ∉ bracketed (xs.map write) := by
  have hfeed : ∀ a, '\n' ∉ write a := fun a => (htext a).notMem (by decide)
  have hentries : '\n' ∉ [',', ' '].intercalate (xs.map write) := by
    induction xs with
    | nil => simp
    | cons x xs ih =>
        cases xs with
        | nil => simpa using hfeed x
        | cons x' xs => simpa [hfeed] using ih
  simpa [bracketed] using hentries

end

theorem writeInts_inj {xs ys : List Int32} (hlen : xs.length = ys.length)
    (h : writeInts xs = writeInts ys) : xs = ys := by
  have htext : ∀ n : Int32, NumberText (writeInt n.toInt) := fun n => numberText_writeInt n.toInt
  have hinj : ∀ {m n : Int32}, writeInt m.toInt = writeInt n.toInt → m = n :=
    fun hwrite => Int32.toInt_inj.1 (writeInt_inj hwrite)
  exact bracketed_map_inj htext hinj hlen h

theorem writeReals_inj {xs ys : List Float} (hlen : xs.length = ys.length)
    (h : writeReals xs = writeReals ys) : xs = ys :=
  bracketed_map_inj numberText_writeReal writeReal_inj hlen h

/-! ## Lines -/

/-- The text of a name and a value has no feed in it. -/
def OneLine (field : String × List Char) : Prop :=
  '\n' ∉ field.1.toList ∧ '\n' ∉ field.2

/-- Lines for fields. -/
def fieldLines (fields : List (String × List Char)) : List (List Char) :=
  fields.map fun f => line f.1 f.2

theorem line_inj {name : String} {v w : List Char} : line name v = line name w ↔ v = w := by
  simp [line]

theorem lineStart_line (name : String) (v : List Char) : LineStart (line name v) :=
  lineStart_feed _

theorem OneLine.pieces_eq {f : String × List Char} (h : OneLine f) :
    pieces (line f.1 f.2) = [line f.1 f.2] := by
  apply pieces_line_feed
  simp [padName, h.1, h.2]

theorem pieces_fieldLines {fields : List (String × List Char)} (h : ∀ f ∈ fields, OneLine f)
    (rest : List Char) :
    pieces ((fieldLines fields).flatten ++ rest) = fieldLines fields ++ pieces rest := by
  induction fields with
  | nil => rfl
  | cons f fields ih =>
      have hrest := ih fun g hg => h g (List.mem_cons_of_mem f hg)
      rw [fieldLines, List.map_cons, List.flatten_cons, List.append_assoc,
        pieces_append (lineStart_line f.1 f.2), (h f List.mem_cons_self).pieces_eq, ← fieldLines,
        hrest]
      rfl

theorem pieces_flatten {fields : List (String × List Char)} (h : ∀ f ∈ fields, OneLine f) :
    pieces (fieldLines fields).flatten = fieldLines fields := by
  have hpieces := pieces_fieldLines h []
  rwa [List.append_nil, pieces, List.append_nil] at hpieces

/-- Whatever stands between lines whose number is known, the lines are known. -/
theorem frame_unique {front front' back back' : List (String × List Char)} {mid mid' : List Char}
    (hfront : ∀ f ∈ front ++ back, OneLine f) (hfront' : ∀ f ∈ front' ++ back', OneLine f)
    (hmid : LineStart mid) (hmid' : LineStart mid') (hlen : front.length = front'.length)
    (hlen' : back.length = back'.length)
    (h : (fieldLines front).flatten ++ (mid ++ (fieldLines back).flatten) =
      (fieldLines front').flatten ++ (mid' ++ (fieldLines back').flatten)) :
    fieldLines front = fieldLines front' ∧ mid = mid' ∧ fieldLines back = fieldLines back' := by
  have hpieces := congrArg pieces h
  rw [pieces_fieldLines fun f hf => hfront f (List.mem_append_left _ hf),
    pieces_fieldLines fun f hf => hfront' f (List.mem_append_left _ hf), pieces_append hmid,
    pieces_append hmid', pieces_flatten fun f hf => hfront f (List.mem_append_right _ hf),
    pieces_flatten fun f hf => hfront' f (List.mem_append_right _ hf)] at hpieces
  obtain ⟨hfirst, hrest⟩ := List.append_inj hpieces (by simp [fieldLines, hlen])
  obtain ⟨-, hlast⟩ := List.append_inj' hrest (by simp [fieldLines, hlen'])
  refine ⟨hfirst, ?_, hlast⟩
  rw [hfirst, hlast] at h
  exact List.append_cancel_right (List.append_cancel_left h)

/-! ## The text of a hierarchy -/

/-- The fields before the identity. -/
def fieldsBefore (h : Hierarchy) : List (String × List Char) :=
  [("dimension", writeNat h.dimension), ("iteration", writeNat h.iteration.toNat),
    ("time", writeReal h.time), ("delta_time", writeReal h.deltaTime)]

/-- The fields after the identity. -/
def fieldsAfter (h : Hierarchy) : List (String × List Char) :=
  [("global_size", writeInts h.globalSize), ("local_size", writeInts h.localSize),
    ("lower_bound", writeInts h.lowerBound), ("upper_bound", writeInts h.upperBound),
    ("delta_space", writeReals h.deltaSpace), ("origin_space", writeReals h.originSpace),
    ("level_factor", writeInts h.levelFactor), ("level_offset", writeInts h.levelOffset),
    ("level_offset_denom", writeInts h.levelOffsetDenominator),
    ("ghost_zones", writeInts h.ghostZones), ("boundary_flags", writeInts h.boundaryFlags)]

def identityLine (h : Hierarchy) : List Char :=
  if h.identity.isEmpty then [] else line "identity" h.identity.toList

theorem hierarchyChars_eq (h : Hierarchy) : hierarchyChars h =
    (fieldLines (fieldsBefore h)).flatten ++
      (identityLine h ++ (fieldLines (fieldsAfter h)).flatten) := by
  simp [hierarchyChars, fieldLines, fieldsBefore, fieldsAfter, identityLine]

theorem lineStart_identityLine (h : Hierarchy) : LineStart (identityLine h) := by
  rw [identityLine]
  split
  · exact lineStart_nil
  · exact lineStart_line _ _

theorem identityLine_inj {a b : Hierarchy} (h : identityLine a = identityLine b) :
    a.identity = b.identity := by
  have hline : ∀ v, line "identity" v ≠ [] := by simp [line]
  rw [identityLine, identityLine] at h
  split at h
  · next ha =>
      split at h
      · next hb => rw [String.isEmpty_iff.1 ha, String.isEmpty_iff.1 hb]
      · exact absurd h.symm (hline _)
  · split at h
    · exact absurd h (hline _)
    · exact String.toList_inj.1 (line_inj.1 h)

theorem oneLine_fields (h : Hierarchy) : ∀ f ∈ fieldsBefore h ++ fieldsAfter h, OneLine f := by
  have hfeed : '\n' ∉ numberChars := by decide
  have hints : ∀ xs, '\n' ∉ writeInts xs :=
    feed_notMem_bracketed fun n : Int32 => numberText_writeInt n.toInt
  have hreals : ∀ xs, '\n' ∉ writeReals xs := feed_notMem_bracketed numberText_writeReal
  have hnats : ∀ n, '\n' ∉ writeNat n := fun n => (numberText_writeNat n).notMem hfeed
  have hreal : ∀ x, '\n' ∉ writeReal x := fun x => (numberText_writeReal x).notMem hfeed
  simp [fieldsBefore, fieldsAfter, OneLine, hints, hreals, hnats, hreal]

/-- The text of a hierarchy loses nothing. Equal real numbers are the same value with the same
sign of zero, or both no number. -/
theorem text_determines_hierarchy {a b : Hierarchy} (ha : a.WellFormed) (hb : b.WellFormed) :
    ofHierarchy a = ofHierarchy b ↔ a = b := by
  refine ⟨fun h => ?_, fun h => h ▸ rfl⟩
  have hchars := String.ofList_injective h
  rw [hierarchyChars_eq, hierarchyChars_eq] at hchars
  obtain ⟨hbefore, hidentity, hafter⟩ := frame_unique (oneLine_fields a) (oneLine_fields b)
    (lineStart_identityLine a) (lineStart_identityLine b) rfl rfl hchars
  simp only [fieldLines, fieldsBefore, fieldsAfter, List.map_cons, List.cons.injEq, line_inj]
    at hbefore hafter
  obtain ⟨hdimension, hiteration, htime, hdelta, -⟩ := hbefore
  obtain ⟨hglobal, hlocal, hlower, hupper, hspacing, horigin, hfactor, hoffset, hdenominator,
    hghosts, hflags, -⟩ := hafter
  have hdim := writeNat_inj hdimension
  have hints : ∀ f, (a.ints f).length = (b.ints f).length := by
    intro f
    rw [ha.length_ints, hb.length_ints, hdim]
  have hreals : ∀ f, (a.reals f).length = (b.reals f).length := by
    intro f
    rw [ha.length_reals, hb.length_reals, hdim]
  cases a
  cases b
  rw [Hierarchy.mk.injEq]
  exact ⟨hdim, UInt32.toNat_inj.1 (writeNat_inj hiteration), writeReal_inj htime,
    writeReal_inj hdelta, identityLine_inj hidentity, writeInts_inj (hints .globalSize) hglobal,
    writeInts_inj (hints .localSize) hlocal, writeInts_inj (hints .lowerBound) hlower,
    writeInts_inj (hints .upperBound) hupper, writeReals_inj (hreals .deltaSpace) hspacing,
    writeReals_inj (hreals .originSpace) horigin, writeInts_inj (hints .boundaryFlags) hflags,
    writeInts_inj (hints .levelFactor) hfactor, writeInts_inj (hints .levelOffset) hoffset,
    writeInts_inj (hints .levelOffsetDenominator) hdenominator,
    writeInts_inj (hints .ghostZones) hghosts⟩

/-- A grid of one axis under a name. -/
def named (identity : String) : Hierarchy :=
  { Hierarchy.zeroed 1 with identity }

theorem wellFormed_named (identity : String) : (named identity).WellFormed where
  dimension_pos := Nat.le_refl 1
  length_ints f := by cases f <;> rfl
  length_reals f := by cases f <;> rfl

/-- An identity that goes on like the line after it does not stand for that line. -/
theorem text_determines_hierarchy_forged :
    (named "a").WellFormed ∧ (named "a\nglobal_size      = [0]").WellFormed ∧
      ofHierarchy (named "a") ≠ ofHierarchy (named "a\nglobal_size      = [0]") := by
  have ha := wellFormed_named "a"
  have hb := wellFormed_named "a\nglobal_size      = [0]"
  refine ⟨ha, hb, fun h => ?_⟩
  have hidentity := congrArg Hierarchy.identity ((text_determines_hierarchy ha hb).1 h)
  exact absurd hidentity (by decide)

end GridSetup.PlainText
