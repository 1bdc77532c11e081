import GridSetup.Proofs.Parameter.Number
import GridSetup.Proofs.Parameters.ActiveThorns

/-!
# Integers come out as they were written

An integer in a file goes through a line, an assignment, tidying and a search for the first word
before anyone looks at its digits. Nothing on this way touches a digit or a minus sign, and neither
of them starts a word for true or false, so the first word of the tidy value is the number as it was
written, quotes aside, whatever was written behind it (`ShowsInteger.firstWord_tidyChars`).

What is left is the range of the type that is asked for: the number is read if the type has it, and
otherwise the error has the value as a whole (`map_readValue_of_showsInteger`).
-/

namespace GridSetup

open Parameter Text Decimal

namespace Parameter

/-! ## A value that shows a number -/

/-- A text that is, quotes aside, a number in decimal with blanks before it, and behind it
nothing or a blank and anything. -/
inductive ShowsInteger (n : Int) (text : List Char) : Prop
  | intro {lead rest : List Char} (hlead : AllBlank lead) (hrest : Stops rest)
      (htext : unquote text = lead ++ (writeInt n ++ rest))

theorem isToken_writeInt (n : Int) : IsToken (writeInt n) :=
  ⟨writeInt_ne_nil n, fun c hc => isBlank_of_mem_numerals c (mem_numerals_of_mem_writeInt hc)⟩

theorem not_isFlagWord_writeInt (n : Int) : ¬ IsFlagWord (writeInt n) := by
  intro h
  obtain ⟨c, rest, hcs, hdigit, hsign⟩ := h.exists_cons
  have hc : c ∈ numerals := mem_numerals_of_mem_writeInt (n := n) (by simp [hcs])
  have hnumerals : ∀ c ∈ numerals, c.isDigit = true ∨ c ∈ ['-', '+', '.'] :=
    forall_mem_of_all (by decide)
  rcases hnumerals c hc with h | h
  · rw [h] at hdigit
    cases hdigit
  · exact hsign h

theorem ShowsInteger.firstWord_tidyChars {n : Int} {text : List Char} (h : ShowsInteger n text) :
    firstWord (tidyChars text) = some (writeInt n) := by
  cases h with
  | @intro lead rest hlead hrest htext =>
      have hstarts : StartsWith text (writeInt n) rest :=
        ⟨by rw [htext, trimStart_append hlead, (isToken_writeInt n).trimStart_append],
          isToken_writeInt n, hrest⟩
      rw [hstarts.firstWord_tidyChars fun hflag => absurd hflag (not_isFlagWord_writeInt n),
        flagDigit_numerals fun c => mem_numerals_of_mem_writeInt]

end Parameter

namespace Parameters

theorem map_readValue_of_showsInteger {n : Int} {text : List Char} (h : ShowsInteger n text)
    (t : IntegerType) :
    (readValue t.valueType (tidy (String.ofList text))).map t.toInt =
      if t.Holds n then .ok n
      else .error (.unreadableValue (tidy (String.ofList text)) t.valueType) := by
  have hread := readToken_writeInt t n
  rw [readValue, tidy_ofList, String.toList_ofList, h.firstWord_tidyChars, Option.bind_some]
  split at hread
  · next hholds =>
      obtain ⟨x, hx, hn⟩ := Option.map_eq_some_iff.1 hread
      rw [if_pos hholds, hx]
      exact congrArg Except.ok hn
  · next hholds =>
      rw [if_neg hholds, Option.map_eq_none_iff.1 hread]
      rfl

/-! ## The last assignment of a text -/

/-- A text without a malformed line in which what stands behind the sign of the last assignment to a
key is `tail`. The key may be spelled in any way that is the same in lower case. -/
inductive AssignsLast (source key : String) (tail : List Char) : Prop
  | intro {before after : List String} {line : String} {name head : List Char}
      (hcut : CutInto source.toList ((before ++ line :: after).map String.toList))
      (hwell : ∀ l ∈ before ++ after, Line.ofString? l ≠ none)
      (hline : line.toList = head ++ '=' :: tail) (hheads : Heads name head)
      (hkey : foldKey (String.ofList name) = foldKey key)
      (hlast : ∀ l ∈ after, ∀ value, Line.ofString? l ≠ some (.assignment (foldKey key) value))

theorem AssignsLast.exists_ofSourceNormalized {source key : String} {tail : List Char}
    (h : AssignsLast source key tail) : ∃ p, ofSourceNormalized source = .ok p ∧
      p.value? key = some (tidy (String.ofList tail)) := by
  cases h with
  | @intro before after line name head hcut hwell hline hheads hkey hlast =>
      have hfeed : '\n' ∉ trimStart tail := by
        intro hmem
        have hmem' : '\n' ∈ line.toList := by simp [hline, mem_of_mem_trimStart hmem]
        exact hcut.feed_notMem _ (List.mem_map_of_mem (by simp)) hmem'
      have hassigns : Line.ofString? line =
          some (.assignment (foldKey key) (String.ofList (trimStart tail))) := by
        rw [Line.ofString?, hline, Line.ofChars?_assignment hheads hfeed, hkey]
      have hread : ∀ l ∈ before ++ line :: after, Line.ofString? l ≠ none := by
        intro l hl
        by_cases heq : l = line
        · simp [heq, hassigns]
        · refine hwell l ?_
          simpa [heq] using hl
      obtain ⟨q, hq⟩ := exists_addLines_eq_ok hread empty 1
      obtain ⟨-, hraw, -⟩ := addLines_eq_ok rfl hq
      refine ⟨q.normalize, ?_, ?_⟩
      · rw [ofSourceNormalized, ofSource_of_cutInto hcut, ofLines, hq]
        rfl
      · rw [value?_normalize_of_raw hraw, value?, get?_ofLines_of_last hq hassigns hlast,
          Option.map_some, tidy_ofList, tidy_ofList, tidyChars_trimStart]

/-- A number that a text assigns last to a key is read as that number in every type of integers that
has it, and in every other type it is the error with the tidy value as a whole. -/
theorem integers_survive {source key : String} {tail : List Char} {n : Int}
    (h : AssignsLast source key tail) (hshows : ShowsInteger n tail) :
    ∃ p, ofSourceNormalized source = .ok p ∧ p.value? key = some (tidy (String.ofList tail)) ∧
      ∀ t : IntegerType, (p.get t.valueType key).map t.toInt =
        if t.Holds n then .ok n
        else .error (.unreadableValue (tidy (String.ofList tail)) t.valueType) := by
  obtain ⟨p, hp, hvalue⟩ := h.exists_ofSourceNormalized
  refine ⟨p, hp, hvalue, fun t => ?_⟩
  rw [get, hvalue]
  exact map_readValue_of_showsInteger hshows t

def stepSource : String :=
  "time::step = 7\nTIME::Step =\u2003-21474\"83649\tof them\"\r\n# the end"

theorem assignsLast_stepSource :
    AssignsLast stepSource "time::STEP" "\u2003-21474\"83649\tof them\"".toList := by
  have hcut : CutInto stepSource.toList ((["time::step = 7"] ++
      "TIME::Step =\u2003-21474\"83649\tof them\"" :: ["# the end"]).map String.toList) :=
    cutInto_iff.2 (by decide)
  have hname : IsName "TIME::Step".toList :=
    .pair (a := "TIME".toList) (b := "Step".toList) (by decide) (by decide)
      (forall_mem_of_all (by decide +kernel)) (forall_mem_of_all (by decide +kernel))
  have hlast : ∀ l ∈ ["# the end"], ∀ value,
      Line.ofString? l ≠ some (.assignment (foldKey "time::STEP") value) := by
    intro l hl
    rw [← assigned?_eq_none_iff]
    revert l
    decide +kernel
  exact .intro hcut (by decide +kernel) rfl ⟨hname, [], [' '], allBlank_nil, by decide, rfl⟩
    (by decide +kernel) hlast

/-- A number that is one too small for 32 bits is refused there with all that stands around it. -/
theorem integers_survive_step : ∃ p, ofSourceNormalized stepSource = .ok p ∧
    (p.get .int32 "time::STEP").map Int32.toInt =
      .error (.unreadableValue "-2147483649\tof them" .int32) ∧
    (p.get .int64 "time::STEP").map Int64.toInt = .ok (-2147483649) := by
  have hshows : ShowsInteger (-2147483649) "\u2003-21474\"83649\tof them\"".toList :=
    @ShowsInteger.intro _ _ ['\u2003'] "\tof them".toList (by decide) (by decide) (by decide)
  have htidy : tidy (String.ofList "\u2003-21474\"83649\tof them\"".toList) =
      "-2147483649\tof them" := by
    decide +kernel
  obtain ⟨p, hp, -, hread⟩ := integers_survive assignsLast_stepSource hshows
  refine ⟨p, hp, ?_, hread .int64⟩
  rw [← htidy]
  exact hread .int32

end Parameters

end GridSetup
