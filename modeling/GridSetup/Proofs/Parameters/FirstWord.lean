import GridSetup.Proofs.Parameters.Entries
import GridSetup.Proofs.Text.AsciiCase
import GridSetup.Proofs.Text.Words

/-!
# What a typed value is read from

A value is read by its first word, so what follows that word should not matter. Between the value as
it is written and the reading of a word stands tidying, and tidying looks at the whole value: a word
for true or false becomes a digit if it is all there is. With more behind it the word stays, and no
type but text reads it.

That is the only way in which the rest of a value is seen. Either there is nothing but blanks behind
the first word, and then tidying finds what it finds for the word alone; or there is more, and then
the tidy value has a blank in it, is no flag, and still starts with the word
(`StartsWith.firstWord_tidyChars`).
-/

namespace GridSetup

open Parameter Text

namespace Parameter

/-! ## Words for true and false -/

/-- A word for true or false, in any ASCII case. -/
def IsFlagWord (cs : List Char) : Prop :=
  asciiLower cs ∈ trueWords ++ falseWords

instance (cs : List Char) : Decidable (IsFlagWord cs) :=
  inferInstanceAs (Decidable (_ ∈ _))

theorem flagDigit_of_not_isFlagWord {cs : List Char} (h : ¬ IsFlagWord cs) :
    flagDigit cs = cs := by
  rw [IsFlagWord, List.mem_append, not_or] at h
  rw [flagDigit, if_neg (by simpa using h.1), if_neg (by simpa using h.2)]

theorem flagDigit_of_true {w : List Char} (h : asciiLower w ∈ trueWords) : flagDigit w = ['1'] := by
  rw [flagDigit, if_pos (by simpa using h)]

theorem flagDigit_of_false {w : List Char} (h : asciiLower w ∈ falseWords) :
    flagDigit w = ['0'] := by
  have hapart : ∀ w ∈ falseWords, w ∉ trueWords := by
    decide
  rw [flagDigit, if_neg (by simpa using hapart _ h), if_pos (by simpa using h)]

theorem IsFlagWord.isToken {cs : List Char} (h : IsFlagWord cs) : IsToken cs := by
  have hwords : ∀ w ∈ trueWords ++ falseWords, IsToken w := by
    decide
  obtain ⟨hne, hchars⟩ := hwords _ h
  refine ⟨fun hnil => hne (by rw [hnil]; rfl), fun c hc => ?_⟩
  rw [← isBlank_asciiLowerChar]
  exact hchars _ (List.mem_map_of_mem hc)

theorem isToken_flagDigit {word : List Char} (h : IsToken word) : IsToken (flagDigit word) := by
  rcases flagDigit_cases word with hd | hd | hd
  · rw [hd]
    decide
  · rw [hd]
    decide
  · rwa [hd]

/-- A word for true or false does not start like a number. -/
theorem IsFlagWord.exists_cons {cs : List Char} (h : IsFlagWord cs) :
    ∃ c rest, cs = c :: rest ∧ c.isDigit = false ∧ c ∉ ['-', '+', '.'] := by
  have hheads : ∀ w ∈ trueWords ++ falseWords,
      w.head? ∈ [some 'y', some 't', some 'n', some 'f'] := by
    decide
  have hsmall : ∀ c ∈ ['y', 't', 'n', 'f'], c.isDigit = false ∧ c ∉ ['-', '+', '.'] :=
    forall_mem_of_all (by decide)
  have hletters : ∀ c, asciiLowerChar c ∈ ['y', 't', 'n', 'f'] →
      c.isDigit = false ∧ c ∉ ['-', '+', '.'] :=
    asciiLowerChar_rec
      (P := fun c d => d ∈ ['y', 't', 'n', 'f'] → c.isDigit = false ∧ c ∉ ['-', '+', '.'])
      hsmall (forall_mem_of_all (by decide))
  obtain ⟨c, rest, rfl, -⟩ := h.isToken.exists_cons
  exact ⟨c, rest, rfl, hletters c (by simpa [asciiLower] using hheads _ h)⟩

/-! ## The first word of a tidy value -/

/-- A value that starts with a word, quotes and the blanks before the word aside. -/
structure StartsWith (value word rest : List Char) : Prop where
  text : trimStart (unquote value) = word ++ rest
  isToken : IsToken word
  stops : Stops rest

section

variable {value word rest : List Char}

theorem StartsWith.quote_notMem (h : StartsWith value word rest) : '"' ∉ word := by
  intro hmem
  have htext : '"' ∈ trimStart (unquote value) := by
    rw [h.text]
    exact List.mem_append_left rest hmem
  exact quote_notMem_unquote value (mem_of_mem_trimStart htext)

/-- The word alone is a value that starts with it. -/
theorem StartsWith.alone (h : StartsWith value word rest) : StartsWith word word [] where
  text := by
    rw [unquote_eq_self h.quote_notMem, h.isToken.trimStart_eq, List.append_nil]
  isToken := h.isToken
  stops := stops_of_allBlank allBlank_nil

theorem StartsWith.tidyChars_of_blank (h : StartsWith value word rest) (hrest : AllBlank rest) :
    tidyChars value = flagDigit word := by
  have htrim : trim (unquote value) = word := by
    rw [trim, h.text, trimEnd_append hrest, h.isToken.trimEnd_eq]
  rw [tidyChars, htrim]

theorem StartsWith.tidyChars_of_more (h : StartsWith value word rest) (hrest : ¬ AllBlank rest) :
    ∃ c tail, isBlank c = true ∧ tidyChars value = word ++ c :: tail := by
  have hne : rest ≠ [] := by
    rintro rfl
    exact hrest allBlank_nil
  obtain ⟨c, more, rfl⟩ := List.exists_cons_of_ne_nil hne
  have hc : isBlank c = true := h.stops c rfl
  obtain ⟨finish, hfinish, htext⟩ := exists_blank_append_trimEnd (word ++ c :: more)
  -- the blanks that are cut off the end do not reach back to the word
  obtain ⟨tail, htail⟩ : ∃ tail, trim (unquote value) = word ++ c :: tail := by
    rw [trim, h.text]
    rcases List.append_eq_append_iff.1 htext with ⟨t, hcut, ht⟩ | ⟨t, -, ht⟩
    · cases t with
      | nil => exact absurd (by rw [List.nil_append] at ht; rwa [ht]) hrest
      | cons d tail =>
          obtain ⟨rfl, -⟩ := List.cons.inj ht
          exact ⟨tail, hcut⟩
    · exact absurd (fun d hd => hfinish d (ht ▸ List.mem_append_right t hd)) hrest
  have hnot : ¬ IsFlagWord (word ++ c :: tail) := by
    intro hflag
    rw [hflag.isToken.2 c (by simp)] at hc
    cases hc
  exact ⟨c, tail, hc, by rw [tidyChars, htail, flagDigit_of_not_isFlagWord hnot]⟩

/-- What follows the first word is not seen, unless it keeps a flag from being one. -/
theorem StartsWith.firstWord_tidyChars (h : StartsWith value word rest)
    (hflag : IsFlagWord word → AllBlank rest) :
    firstWord (tidyChars value) = some (flagDigit word) := by
  by_cases hrest : AllBlank rest
  · rw [h.tidyChars_of_blank hrest, firstWord_token (isToken_flagDigit h.isToken)]
  · obtain ⟨c, tail, hc, htidy⟩ := h.tidyChars_of_more hrest
    rw [htidy, firstWord_token_append h.isToken (stops_cons hc tail),
      flagDigit_of_not_isFlagWord fun hf => hrest (hflag hf)]

theorem StartsWith.firstWord_tidyChars_of_more (h : StartsWith value word rest)
    (hrest : ¬ AllBlank rest) : firstWord (tidyChars value) = some word := by
  obtain ⟨c, tail, hc, htidy⟩ := h.tidyChars_of_more hrest
  rw [htidy, firstWord_token_append h.isToken (stops_cons hc tail)]

end

/-! ## Flags read as other types -/

section

variable {word : List Char} (h : IsFlagWord word)
include h

theorem readDigits_of_isFlagWord : Decimal.readDigits word = none := by
  obtain ⟨c, rest, rfl, hdigit, -⟩ := h.exists_cons
  rw [Decimal.readDigits, if_neg]
  simp [hdigit]

theorem readInt_of_isFlagWord : Decimal.readInt word = none := by
  have hnone := readDigits_of_isFlagWord h
  obtain ⟨c, rest, rfl, -, hsign⟩ := h.exists_cons
  rw [Decimal.readInt.eq_def]
  split
  · next heq =>
      cases heq
      simp at hsign
  · next heq =>
      cases heq
      simp at hsign
  · rw [hnone]
    rfl

theorem readNat_of_isFlagWord : Decimal.readNat word = none := by
  have hnone := readDigits_of_isFlagWord h
  obtain ⟨c, rest, rfl, -, hsign⟩ := h.exists_cons
  rw [Decimal.readNat.eq_def]
  split
  · next heq =>
      cases heq
      simp at hsign
  · exact hnone

theorem readLiteral_of_isFlagWord : Decimal.Literal.read word = none := by
  have hwords : ∀ w ∈ trueWords ++ falseWords,
      w ≠ ['n', 'a', 'n'] ∧ ¬ (w = ['i', 'n', 'f'] ∨ w = ['i', 'n', 'f', 'i', 'n', 'i', 't', 'y']) := by
    decide
  obtain ⟨hnan, hinfinite⟩ := hwords _ h
  obtain ⟨c, rest, rfl, hdigit, hsign⟩ := h.exists_cons
  have hsplit : Decimal.Literal.splitSign (c :: rest) = (false, c :: rest) := by
    rw [Decimal.Literal.splitSign.eq_def]
    split
    · next heq =>
        cases heq
        simp at hsign
    · next heq =>
        cases heq
        simp at hsign
    · rfl
  have hfraction : Decimal.Literal.splitFraction (c :: rest) = ([], c :: rest) := by
    rw [Decimal.Literal.splitFraction.eq_def]
    split
    · next heq =>
        cases heq
        simp at hsign
    · rfl
  rw [Decimal.Literal.read, hsplit]
  simp only [if_neg hnan, if_neg hinfinite]
  rw [Decimal.Literal.readFinite]
  simp [hdigit, hfraction]

theorem readToken_of_isFlagWord {t : ValueType} (ht : t ≠ .word) : t.readToken word = none := by
  cases t with
  | int32 | int64 =>
      rw [ValueType.readToken, ValueType.readIntBetween, readInt_of_isFlagWord h]
      rfl
  | nat32 | nat64 | count =>
      rw [ValueType.readToken, ValueType.readNatBelow, readNat_of_isFlagWord h]
      rfl
  | single =>
      rw [ValueType.readToken, Binary.readFloat32, readLiteral_of_isFlagWord h]
      rfl
  | double =>
      rw [ValueType.readToken, Binary.readFloat, readLiteral_of_isFlagWord h]
      rfl
  | flag =>
      obtain ⟨c, rest, rfl, hdigit, -⟩ := h.exists_cons
      rw [ValueType.readToken, if_neg, if_neg]
      · rintro heq
        cases heq
        cases hdigit
      · rintro heq
        cases heq
        cases hdigit
  | word => exact absurd rfl ht

end

end Parameter

namespace Parameters

/-! ## Reading -/

theorem readValue_eq_ok_iff {t : ValueType} {value : String} {x : t.Carrier} :
    readValue t value = .ok x ↔ (firstWord value.toList).bind t.readToken = some x := by
  rw [readValue]
  cases (firstWord value.toList).bind t.readToken with
  | none => simp
  | some y => simp

theorem get_normalize_insert (p : Parameters) (t : ValueType) (key value : String) :
    (p.insert key value).normalize.get t key = readValue t (tidy value) := by
  rw [normalize_insert, get, value?, insert, Table.get?_insert, if_pos rfl,
    if_pos (normalized_normalize p)]

/-- A value that starts with a word reads as the word alone does, as every type. The one exception
is a word for true or false with something else than blanks behind it. Alone it is a digit by the
time it is read; there it is the text that it is, and nothing else. -/
theorem get_by_first_word (p : Parameters) (key : String) {value : String} {word rest : List Char}
    (h : StartsWith value.toList word rest) :
    ((IsFlagWord word → AllBlank rest) → ∀ (t : ValueType) (x : t.Carrier),
        (p.insert key value).normalize.get t key = .ok x ↔
          (p.insert key (String.ofList word)).normalize.get t key = .ok x) ∧
      (IsFlagWord word → ¬ AllBlank rest →
        (p.insert key value).normalize.get .word key = .ok (String.ofList word) ∧
          ∀ t ≠ .word,
            (p.insert key value).normalize.get t key = .error (.unreadableValue (tidy value) t)) := by
  have halone := h.alone.firstWord_tidyChars fun _ => allBlank_nil
  constructor
  · intro hflag t x
    rw [get_normalize_insert, get_normalize_insert, readValue_eq_ok_iff, readValue_eq_ok_iff,
      tidy_ofList, String.toList_ofList, halone, tidy, String.toList_ofList,
      h.firstWord_tidyChars hflag]
  · intro hflag hmore
    have hfirst : firstWord (tidy value).toList = some word := by
      rw [tidy, String.toList_ofList, h.firstWord_tidyChars_of_more hmore]
    constructor
    · rw [get_normalize_insert, readValue_eq_ok_iff, hfirst]
      rfl
    · intro t ht
      rw [get_normalize_insert, readValue, hfirst, Option.bind_some, readToken_of_isFlagWord hflag ht]

/-- A number with a quote in it and more behind it, a flag with blanks behind it that a quote
protects, and a word for true that more behind it makes into text. -/
theorem get_by_first_word_quoted :
    StartsWith "-7\"5 no".toList "-75".toList " no".toList ∧ ¬ IsFlagWord "-75".toList ∧
      (insert .empty "A::B" "-7\"5 no").normalize.get .int64 "A::B" = .ok (-75) ∧
      StartsWith "\"\u00a0No\t\" ".toList "No".toList "\t ".toList ∧ AllBlank "\t ".toList ∧
      (insert .empty "A::B" "\"\u00a0No\t\" ").normalize.get .flag "A::B" = .ok false ∧
      StartsWith "T 1".toList "T".toList " 1".toList ∧ IsFlagWord "T".toList ∧
      ¬ AllBlank " 1".toList ∧ (insert .empty "A::B" "T 1").normalize.get .word "A::B" = .ok "T" ∧
      (insert .empty "A::B" "T 1").normalize.get .nat32 "A::B" =
        .error (.unreadableValue "T 1" .nat32) := by
  have hnumber : StartsWith "-7\"5 no".toList "-75".toList " no".toList :=
    ⟨by decide, by decide, by decide⟩
  have hflag : StartsWith "\"\u00a0No\t\" ".toList "No".toList "\t ".toList :=
    ⟨by decide, by decide, by decide⟩
  have htext : StartsWith "T 1".toList "T".toList " 1".toList :=
    ⟨by decide, by decide, by decide⟩
  have hnot : ¬ IsFlagWord "-75".toList := by decide
  have hblank : AllBlank "\t ".toList := by decide
  obtain ⟨hsame, -⟩ := get_by_first_word .empty "A::B" hnumber
  obtain ⟨hsame', -⟩ := get_by_first_word .empty "A::B" hflag
  obtain ⟨-, hmore⟩ := get_by_first_word .empty "A::B" htext
  obtain ⟨hword, hother⟩ := hmore (by decide) (by decide)
  exact ⟨hnumber, hnot, (hsame (fun h => absurd h hnot) .int64 _).2 rfl, hflag, hblank,
    (hsame' (fun _ => hblank) .flag _).2 rfl, htext, by decide, by decide, hword,
    hother .nat32 (by decide)⟩

/-- What follows the word `yes` makes a readable flag an unreadable one. -/
theorem get_not_by_first_word_alone :
    ¬ ∀ (p : Parameters) (key value : String) (word rest : List Char),
      StartsWith value.toList word rest → ∀ (t : ValueType) (x : t.Carrier),
        (p.insert key value).normalize.get t key = .ok x ↔
          (p.insert key (String.ofList word)).normalize.get t key = .ok x := by
  intro h
  have hyes : StartsWith "yes trailing".toList "yes".toList " trailing".toList :=
    ⟨by decide, by decide, by decide⟩
  have hsame := h .empty "a::flag" "yes trailing" _ _ hyes .flag true
  have hread : (insert .empty "a::flag" "yes trailing").normalize.get .flag "a::flag" =
      .error (.unreadableValue "yes trailing" .flag) := by
    rfl
  rw [hread] at hsame
  cases hsame.2 rfl

end Parameters

end GridSetup
