import GridSetup.Proofs.Parameters.FirstWord
import GridSetup.Proofs.Parameters.Reading
import GridSetup.Proofs.Resolution.Footprint

/-!
# The list of active thorns

A line lists the active thorns if its name is the keyword. Two notions of case meet there. The
keyword is recognised by folding, and its value is stored under the name in lower case. They agree on
every spelling with letters of ASCII, and on no other: the only letter beyond ASCII that folds into
the keyword is the long s, and that is in lower case already. A list under a keyword with a long s is
accepted and never looked up (`lowercase_keyword`).

A list that is looked up comes out as it was written, name by name, whatever the blanks around the
names are, since words are found between blanks and tidying takes no more than quotes and blanks from
the text. What tidying does to flags does not reach a list of two names or more, which has a blank in
it. A list of a single name is a value like any other, and a thorn by the name of a flag is a digit
(`Spaced.words_tidyChars`).
-/

namespace GridSetup

open Parameter Text

namespace Parameter

/-! ## The key of a line -/

/-- An identifier in lower case. -/
def IsLowerIdentifier (cs : List Char) : Prop :=
  IsIdentifier cs ∧ lowercase cs = cs

/-- Two identifiers in lower case with two colons between them. -/
def IsLowerPair (key : String) : Prop :=
  ∃ a b, IsLowerIdentifier a ∧ IsLowerIdentifier b ∧ key = String.ofList (a ++ ':' :: ':' :: b)

theorem IsLowerPair.colon_mem {key : String} (h : IsLowerPair key) : ':' ∈ key.toList := by
  obtain ⟨a, b, -, -, rfl⟩ := h
  simp

theorem isLowerPair_lowercase {a b : List Char} (ha : IsIdentifier a) (hb : IsIdentifier b) :
    IsLowerPair (String.ofList (lowercase (a ++ ':' :: ':' :: b))) := by
  have hlower : ∀ d ∈ lowercase (a ++ ':' :: ':' :: b), IsLower d := isLower_of_mem_lowercase
  rw [lowercase, lowerFrom_append, lowerFrom, lowerFrom, lowerAt_of_isLower isLower_colon,
    lowerAt_of_isLower isLower_colon, lowerFrom_eq_lowerBetween] at hlower ⊢
  refine ⟨_, _, ⟨⟨lowerBetween_ne_nil ha.1, isWord_of_mem_lowerBetween ha.2⟩, ?_⟩,
    ⟨⟨lowerBetween_ne_nil hb.1, isWord_of_mem_lowerBetween hb.2⟩, ?_⟩, rfl⟩
  · exact lowercase_eq_self fun c hc => hlower c (List.mem_append_left _ hc)
  · refine lowercase_eq_self fun c hc => hlower c ?_
    exact List.mem_append_right _ (List.mem_append_right _ (List.mem_append_right _ hc))

/-- The key of a list that is not looked up. -/
def longThornsKey : String := "activethornſ"

theorem map_foldKeywordChar {cs : List Char} (h : 'ſ' ∉ cs) :
    cs.map foldKeywordChar = asciiLower cs := by
  apply List.map_congr_left
  intro c hc
  rw [foldKeywordChar, if_neg]
  rintro rfl
  exact h hc

/-- The keyword in lower case is the key of the list of thorns, but for a long s, which stays. -/
theorem lowercase_keyword {w : List Char} (h : isThornsKeyword w = true) :
    lowercase w = if 'ſ' ∈ w then longThornsKey.toList else activeThornsKey.toList := by
  have hw : w.map foldKeywordChar = activeThornsKey.toList := by simpa [isThornsKeyword] using h
  rw [lowercase_thorns (mem_keywordLetters_of_isThornsKeyword h)]
  split
  · next hlong =>
      -- the keyword has its one s at the end
      have hkey : activeThornsKey.toList = "activethorn".toList ++ ['s'] := by decide
      rw [hkey] at hw
      obtain ⟨front, back, rfl, hfront, hback⟩ := List.map_eq_append_iff.1 hw
      obtain ⟨c, rest, rfl, hc, hrest⟩ := List.map_eq_cons_iff.1 hback
      obtain rfl := List.map_eq_nil_iff.1 hrest
      have hshort : 'ſ' ∉ front := by
        intro hmem
        have hs : foldKeywordChar 'ſ' ∈ "activethorn".toList := hfront ▸ List.mem_map_of_mem hmem
        revert hs
        decide
      obtain rfl : 'ſ' = c := by simpa [hshort] using hlong
      rw [map_foldKeywordChar hshort] at hfront
      rw [asciiLower, List.map_append]
      show asciiLower front ++ _ = _
      rw [hfront]
      decide
  · next hshort => rw [← map_foldKeywordChar hshort, hw]

theorem foldKey_keyword {w : List Char} (h : isThornsKeyword w = true) :
    foldKey (String.ofList w) = if 'ſ' ∈ w then longThornsKey else activeThornsKey := by
  rw [foldKey_ofList, lowercase_keyword h]
  split <;> exact String.ofList_toList

theorem foldKey_activeThornsKey : foldKey activeThornsKey = activeThornsKey := by
  decide

/-! ## A line that lists thorns -/

/-- A line that lists thorns between quotes, with the keyword in any ASCII case and blanks wherever
they may stand. -/
inductive ListsThorns (names : List (List Char)) : List Char → Prop
  | intro {start keyword middle gap body finish : List Char} (hstart : AllBlank start)
      (hkeyword : asciiLower keyword = activeThornsKey.toList) (hmiddle : AllBlank middle)
      (hgap : AllBlank gap) (hbody : Spaced names body) (hfinish : AllBlank finish) :
      ListsThorns names
        (start ++ (keyword ++ middle) ++ '=' :: (gap ++ '"' :: (body ++ '"' :: finish)))

theorem keyword_of_asciiLower {keyword : List Char}
    (h : asciiLower keyword = activeThornsKey.toList) :
    isThornsKeyword keyword = true ∧ 'ſ' ∉ keyword := by
  have hshort : 'ſ' ∉ keyword := by
    intro hmem
    have hs : asciiLowerChar 'ſ' ∈ activeThornsKey.toList := h ▸ List.mem_map_of_mem hmem
    revert hs
    decide
  refine ⟨?_, hshort⟩
  rw [isThornsKeyword, map_foldKeywordChar hshort, h]
  exact beq_self_eq_true _

/-- A line that lists thorns is an assignment, and its value is tidied like the text between the
quotes. -/
theorem ListsThorns.exists_assignment {names : List (List Char)} {cs : List Char}
    (h : ListsThorns names cs) (hfeed : '\n' ∉ cs) :
    ∃ value body, Line.ofChars? cs = some (.assignment activeThornsKey (String.ofList value)) ∧
      Spaced names body ∧ tidyChars value = tidyChars body := by
  cases h with
  | @intro start keyword middle gap body finish hstart hkeyword hmiddle hgap hbody hfinish =>
      obtain ⟨hname, hshort⟩ := keyword_of_asciiLower hkeyword
      have hheads : Heads keyword (start ++ (keyword ++ middle)) :=
        ⟨.thorns hname, start, middle, hstart, hmiddle, rfl⟩
      have hvalue : '\n' ∉ trimStart (gap ++ '"' :: (body ++ '"' :: finish)) := by
        intro hmem
        exact hfeed (List.mem_append_right _ (List.mem_cons_of_mem _ (mem_of_mem_trimStart hmem)))
      have htidy : tidyChars (trimStart (gap ++ '"' :: (body ++ '"' :: finish))) = tidyChars body :=
        calc tidyChars (trimStart (gap ++ '"' :: (body ++ '"' :: finish)))
            = tidyChars (gap ++ '"' :: (body ++ '"' :: finish)) := tidyChars_trimStart _
          _ = tidyChars ('"' :: (body ++ '"' :: finish)) := tidyChars_blank_append hgap _
          _ = tidyChars (body ++ '"' :: finish) := tidyChars_quote [] _
          _ = tidyChars (body ++ finish) := tidyChars_quote body finish
          _ = tidyChars body := tidyChars_append_blank hfinish body
      refine ⟨_, body, ?_, hbody, htidy⟩
      rw [Line.ofChars?_assignment hheads hvalue, foldKey_keyword hname, if_neg hshort]

/-- What is left of a list of names: a single name that is a flag is a digit. -/
def tidyNames : List (List Char) → List (List Char)
  | [name] => [flagDigit name]
  | names => names

theorem tidyNames_of_not_flag {names : List (List Char)}
    (h : ∀ name, names = [name] → ¬ IsFlagWord name) : tidyNames names = names := by
  match names with
  | [] => rfl
  | [name] => rw [tidyNames, flagDigit_of_not_isFlagWord (h name rfl)]
  | _ :: _ :: _ => rfl

end Parameter

namespace Text

theorem Spaced.notMem {ws : List (List Char)} {cs : List Char} (h : Spaced ws cs) {c : Char}
    (hc : isBlank c = false) (hws : ∀ w ∈ ws, c ∉ w) : c ∉ cs := by
  have hblank : ∀ {ws : List Char}, AllBlank ws → c ∉ ws := by
    intro ws hall hmem
    rw [hall c hmem] at hc
    cases hc
  induction h with
  | blanks h => exact hblank h
  | word hlead _ _ _ ih =>
      obtain ⟨hword, hothers⟩ := List.forall_mem_cons.1 hws
      simp [hblank hlead, hword, ih hothers]

theorem Spaced.trim_eq {w cs : List Char} (h : Spaced [w] cs) : trim cs = w := by
  cases h with
  | word hlead hword _ hrest =>
      cases hrest with
      | blanks hrest => rw [trim_blank_append hlead, trim_append_blank hrest, hword.trim_eq]

/-- The names in a list that is tidied. -/
theorem Spaced.words_tidyChars {names : List (List Char)} {body : List Char}
    (h : Spaced names body) (hquote : ∀ name ∈ names, '"' ∉ name) :
    words (tidyChars body) = tidyNames names := by
  have hwords : words (trim body) = names := by rw [words_trim, h.words_eq]
  rw [tidyChars, unquote_eq_self (h.notMem (by decide) hquote)]
  by_cases hflag : IsFlagWord (trim body)
  · rw [words_token hflag.isToken] at hwords
    rw [← hwords, words_token (isToken_flagDigit hflag.isToken), tidyNames]
  · rw [flagDigit_of_not_isFlagWord hflag, hwords, tidyNames_of_not_flag]
    rintro name rfl
    rwa [h.trim_eq] at hflag

end Text

namespace Parameters

/-! ## Where a list is kept -/

/-- The line of an assignment, taken apart, with the key that it stores its value under. -/
theorem exists_parts_of_assignment {line key value : String}
    (h : Line.ofString? line = some (.assignment key value)) :
    ∃ parts : Line.Parts, parts.Fit ∧ parts.text = line.toList ∧
      key = String.ofList (lowercase parts.name) ∧ value = String.ofList parts.value := by
  obtain ⟨parts, hfit, htext, hline⟩ := (Line.says_of_ofChars? h).exists_parts
  obtain ⟨rfl, rfl⟩ := Line.assignment.inj hline
  exact ⟨parts, hfit, htext, rfl, rfl⟩

theorem value?_activeThornsKey_insert (p : Parameters) {key : String} (hkey : foldKey key = key)
    (value : String) :
    (p.insert key value).value? activeThornsKey =
      if key = activeThornsKey then some (if p.normalized then tidy value else value)
      else p.value? activeThornsKey := by
  rw [value?, insert, Table.get?_insert, foldKey_activeThornsKey, hkey, value?,
    foldKey_activeThornsKey]
  simp only [eq_comm]

/-- The key of an assignment is a pair of names in lower case, or the keyword was given. A list of
thorns is kept where it is looked up if the keyword has no long s in it. With one it is kept under a
key of its own, and what is looked up is as it was. -/
theorem thorns_kept_unless_long {line key value : String}
    (h : Line.ofString? line = some (.assignment key value)) :
    ∃ parts : Line.Parts, parts.Fit ∧ parts.text = line.toList ∧
      (IsLowerPair key ∨ foldCase parts.name = foldCase "ActiveThorns".toList) ∧
      (foldCase parts.name = foldCase "ActiveThorns".toList →
        (key = if 'ſ' ∈ parts.name then longThornsKey else activeThornsKey) ∧
          ∀ (p : Parameters) (number : Nat), ∃ q, p.addLines number [line] = .ok q ∧
            q.value? activeThornsKey =
              if 'ſ' ∈ parts.name then p.value? activeThornsKey
              else some (if p.normalized then tidy value else value)) := by
  obtain ⟨parts, hfit, htext, rfl, rfl⟩ := exists_parts_of_assignment h
  refine ⟨parts, hfit, htext, ?_, fun hkeyword => ?_⟩
  · rcases hfit.name with ⟨a, b, ha, hb, hname⟩ | hkeyword
    · rw [hname]
      exact Or.inl (isLowerPair_lowercase ha hb)
    · exact Or.inr hkeyword
  · have hkey := foldKey_keyword (isThornsKeyword_iff.2 hkeyword)
    rw [foldKey_ofList] at hkey
    refine ⟨hkey, fun p number => ⟨_, addLines_cons_of_some h p number [], ?_⟩⟩
    show (p.insert _ _).value? activeThornsKey = _
    rw [value?_activeThornsKey_insert p (foldKey_of_assignment h), hkey]
    by_cases hlong : 'ſ' ∈ parts.name
    · rw [if_pos hlong, if_pos hlong, if_neg (by decide)]
    · rw [if_neg hlong, if_neg hlong, if_pos rfl]

/-- The keyword in a mixed case, and with a long s at its end. -/
theorem thorns_kept_unless_long_ends :
    Line.ofString? " ACTIVEthornS= A b" = some (.assignment activeThornsKey "A b") ∧
      (∃ q, empty.addLines 1 [" ACTIVEthornS= A b"] = .ok q ∧
        q.value? activeThornsKey = some "A b") ∧
      Line.ofString? "ActiveThornſ =A" = some (.assignment longThornsKey "A") ∧
      ∃ q, empty.addLines 1 ["ActiveThornſ =A"] = .ok q ∧ q.value? activeThornsKey = none := by
  have hshort : Line.ofString? " ACTIVEthornS= A b" = some (.assignment activeThornsKey "A b") := by
    decide +kernel
  have hlong : Line.ofString? "ActiveThornſ =A" = some (.assignment longThornsKey "A") := by
    decide +kernel
  have hread : ∀ {line key value : String}, Line.ofString? line = some (.assignment key value) →
      ':' ∉ key.toList → ∃ q, empty.addLines 1 [line] = .ok q ∧
        q.value? activeThornsKey = if key = longThornsKey then none else some value := by
    intro line key value h hcolon
    obtain ⟨parts, -, -, hname, hkept⟩ := thorns_kept_unless_long h
    obtain ⟨rfl, hadd⟩ := hkept (hname.resolve_left fun hpair => hcolon hpair.colon_mem)
    obtain ⟨q, hq, hvalue⟩ := hadd empty 1
    refine ⟨q, hq, hvalue.trans ?_⟩
    split
    · rfl
    · rfl
  exact ⟨hshort, hread hshort (by decide), hlong, hread hlong (by decide)⟩

/-- A line with a long s in the keyword is read as an assignment, to a key that is neither a pair
nor the one under which the list of thorns is looked up. -/
theorem thorns_not_kept_at_long_s :
    ¬ ∀ line key value, Line.ofString? line = some (.assignment key value) →
      IsLowerPair key ∨ key = activeThornsKey := by
  intro h
  have hline : Line.ofString? "ActiveThornſ =A" = some (.assignment longThornsKey "A") := by
    decide +kernel
  rcases h _ _ _ hline with hpair | hkey
  · exact absurd hpair.colon_mem (by decide)
  · exact absurd hkey (by decide)

/-! ## The list of a text -/

theorem assigned?_eq_none_iff {key line : String} :
    assigned? key line = none ↔ ∀ value, Line.ofString? line ≠ some (.assignment key value) := by
  rw [← Option.not_isSome_iff_eq_none, isSome_assigned?_iff, not_exists]

/-- The last line that assigns to a key decides what is read under it. -/
theorem get?_ofLines_of_last {before after : List String} {line key value : String}
    {p : Parameters} (h : ofLines (before ++ line :: after) = .ok p)
    (hline : Line.ofString? line = some (.assignment key value))
    (hlast : ∀ l ∈ after, ∀ value, Line.ofString? l ≠ some (.assignment key value)) :
    p.table.get? key = some value := by
  have hnone : after.reverse.findSome? (assigned? key) = none := by
    rw [List.findSome?_eq_none_iff]
    intro l hl
    exact assigned?_eq_none_iff.2 (hlast l (List.mem_reverse.1 hl))
  have hsome : assigned? key line = some value := by
    rw [assigned?, hline]
    exact if_pos rfl
  rw [get?_ofLines h, List.reverse_append, List.reverse_cons, List.append_assoc,
    List.findSome?_append, hnone, Option.none_or, List.singleton_append,
    List.findSome?_cons_of_isSome]
  · exact hsome
  · rw [hsome]
    rfl

theorem value?_normalize_of_raw {p : Parameters} (h : p.normalized = false) (key : String) :
    p.normalize.value? key = (p.value? key).map tidy := by
  rw [normalize, h]
  exact Table.get?_mapValues tidy p.table _

/-- The names that are found after lines of which the last list of thorns is this one. -/
theorem activeThorns_normalize_of_last {before after : List String} {line : String}
    {names : List String} {p : Parameters} (h : ofLines (before ++ line :: after) = .ok p)
    (hfeed : '\n' ∉ line.toList) (hlists : ListsThorns (names.map String.toList) line.toList)
    (hquote : ∀ name ∈ names, '"' ∉ name.toList)
    (hlast : ∀ l ∈ after, ∀ value, Line.ofString? l ≠ some (.assignment activeThornsKey value)) :
    p.normalize.activeThorns = (tidyNames (names.map String.toList)).map String.ofList := by
  obtain ⟨value, body, hline, hbody, htidy⟩ := hlists.exists_assignment hfeed
  obtain ⟨-, hraw, -⟩ := addLines_eq_ok rfl h
  rw [activeThorns, value?_normalize_of_raw hraw, value?, foldKey_activeThornsKey,
    get?_ofLines_of_last h hline hlast, Option.map_some, tidy_ofList]
  simp only [String.toList_ofList]
  rw [htidy, hbody.words_tidyChars (by simpa using hquote)]

/-- The last line that lists thorns gives them as it has them, whatever the file has before it and
whatever blanks are in it. A single name is a value like any other, and if it is a word for true or
false it is a digit. -/
theorem activeThorns_as_listed {source : String} {before after : List String} {line : String}
    {names : List String}
    (hcut : CutInto source.toList ((before ++ line :: after).map String.toList))
    (hwell : ∀ l ∈ before ++ after, Line.ofString? l ≠ none)
    (hlists : ListsThorns (names.map String.toList) line.toList)
    (hquote : ∀ name ∈ names, '"' ∉ name.toList)
    (hlast : ∀ l ∈ after, ∀ value, Line.ofString? l ≠ some (.assignment activeThornsKey value)) :
    ∃ p, ofSourceNormalized source = .ok p ∧
      (∀ d r, resolveSource d source = .ok r → r.parameters.activeThorns = p.activeThorns) ∧
      ((∀ name, names = [name] → ¬ IsFlagWord name.toList) → p.activeThorns = names) ∧
      ∀ name, names = [name] →
        (asciiLower name.toList ∈ trueWords → p.activeThorns = ["1"]) ∧
          (asciiLower name.toList ∈ falseWords → p.activeThorns = ["0"]) := by
  have hfeed : '\n' ∉ line.toList := hcut.feed_notMem _ (List.mem_map_of_mem (by simp))
  have hread : ∀ l ∈ before ++ line :: after, Line.ofString? l ≠ none := by
    rw [List.forall_mem_append] at hwell ⊢
    refine ⟨hwell.1, List.forall_mem_cons.2 ⟨?_, hwell.2⟩⟩
    obtain ⟨value, -, hline, -⟩ := hlists.exists_assignment hfeed
    rw [Line.ofString?, hline]
    exact Option.some_ne_none _
  obtain ⟨q, hq⟩ := exists_addLines_eq_ok hread empty 1
  have hsource : ofSource source = .ok q := (ofSource_of_cutInto hcut).trans hq
  have hthorns := activeThorns_normalize_of_last hq hfeed hlists hquote hlast
  refine ⟨q.normalize, by rw [ofSourceNormalized, hsource]; rfl, ?_, ?_, ?_⟩
  · intro d r hr
    rw [resolveSource_eq, hsource] at hr
    rw [resolve_parameters hr]
  · intro hnot
    rw [hthorns, tidyNames_of_not_flag, List.map_map]
    · simp
    · intro name hname
      obtain ⟨text, rfl, rfl⟩ := List.map_eq_singleton_iff.1 hname
      exact hnot text rfl
  · rintro name rfl
    rw [hthorns]
    exact ⟨fun htrue => by rw [List.map_singleton, tidyNames, flagDigit_of_true htrue]; rfl,
      fun hfalse => by rw [List.map_singleton, tidyNames, flagDigit_of_false hfalse]; rfl⟩

/-! ## A list among other lines -/

/-- A list over another one, with a flag among its names, and then a line that sets something else. -/
def thornsSource : String :=
  "ActiveThorns = \"Old\"\nACTIVEthorns =\u00a0\" yes\t\u2003PUGH  IO/ASCII \" \r\nio::out = 1"

theorem cutInto_thornsSource : CutInto thornsSource.toList
    ((["ActiveThorns = \"Old\""] ++ "ACTIVEthorns =\u00a0\" yes\t\u2003PUGH  IO/ASCII \" " ::
      ["io::out = 1"]).map String.toList) :=
  cutInto_iff.2 (by decide)

theorem listsThorns_thornsSource :
    ListsThorns (["yes", "PUGH", "IO/ASCII"].map String.toList)
      "ACTIVEthorns =\u00a0\" yes\t\u2003PUGH  IO/ASCII \" ".toList := by
  have htext : [] ++ ("ACTIVEthorns".toList ++ " ".toList) ++ '=' :: ("\u00a0".toList ++ '"' ::
      (" yes\t\u2003PUGH  IO/ASCII ".toList ++ '"' :: " ".toList)) =
        "ACTIVEthorns =\u00a0\" yes\t\u2003PUGH  IO/ASCII \" ".toList := by
    decide
  rw [← htext]
  exact .intro allBlank_nil (by decide) (by decide) (by decide) (words_eq_iff.1 (by decide +kernel))
    (by decide)

def thornsKeys : Parameters :=
  ((empty.insert "activethorns" "\"Old\"").insert "activethorns"
    "\" yes\t\u2003PUGH  IO/ASCII \" ").insert "io::out" "1"

theorem ofSource_thornsSource : ofSource thornsSource = .ok thornsKeys := by
  have hold : Line.ofString? "ActiveThorns = \"Old\"" =
      some (.assignment "activethorns" "\"Old\"") := by
    decide +kernel
  have hlist : Line.ofString? "ACTIVEthorns =\u00a0\" yes\t\u2003PUGH  IO/ASCII \" " =
      some (.assignment "activethorns" "\" yes\t\u2003PUGH  IO/ASCII \" ") := by
    decide +kernel
  have hout : Line.ofString? "io::out = 1" = some (.assignment "io::out" "1") := by
    decide +kernel
  rw [ofSource_of_cutInto cutInto_thornsSource, ofLines, List.singleton_append,
    addLines_cons_of_some hold, addLines_cons_of_some hlist, addLines_cons_of_some hout]
  rfl

theorem agreeOn_thornsKeys : AgreeOn Key.recognised thornsKeys.normalize (normalize empty) := by
  have hthorns : foldKey "activethorns" ∉ Key.recognised := by decide +kernel
  have hout : foldKey "io::out" ∉ Key.recognised := by decide +kernel
  intro key hkey
  rw [thornsKeys, normalize_insert, agreeOn_insert hout _ _ key hkey, normalize_insert,
    agreeOn_insert hthorns _ _ key hkey, normalize_insert, agreeOn_insert hthorns _ _ key hkey]

theorem exists_resolveSource_thorns :
    ∃ r, resolveSource .standard thornsSource = .ok r := by
  have hempty : (resolve .standard empty).isOk = true := by
    decide +kernel
  have hgrid := sameGrid_of_agreeOn agreeOn_thornsKeys .standard
  obtain ⟨r, hr⟩ := exists_eq_ok (hgrid.isOk_eq.trans hempty)
  refine ⟨r, ?_⟩
  rw [resolveSource_eq, ofSource_thornsSource, Except.bind]
  exact hr

/-- A name that is a flag among others comes out as it is. -/
theorem activeThorns_as_listed_mixed :
    ∃ p r, ofSourceNormalized thornsSource = .ok p ∧ p.activeThorns = ["yes", "PUGH", "IO/ASCII"] ∧
      resolveSource .standard thornsSource = .ok r ∧
      r.parameters.activeThorns = ["yes", "PUGH", "IO/ASCII"] := by
  have hlast : ∀ l ∈ ["io::out = 1"], ∀ value,
      Line.ofString? l ≠ some (.assignment activeThornsKey value) := by
    intro l hl
    rw [← assigned?_eq_none_iff]
    revert l
    decide +kernel
  obtain ⟨p, hp, hresolved, hnames, -⟩ := activeThorns_as_listed cutInto_thornsSource
    (by decide +kernel) listsThorns_thornsSource (by decide) hlast
  have hthorns := hnames (by simp)
  obtain ⟨r, hr⟩ := exists_resolveSource_thorns
  exact ⟨p, r, hp, hthorns, hr, (hresolved _ _ hr).trans hthorns⟩

theorem listsThorns_flag :
    ListsThorns (["yes"].map String.toList) "ActiveThorns = \"yes\"".toList := by
  have htext : [] ++ ("ActiveThorns".toList ++ " ".toList) ++ '=' :: (" ".toList ++ '"' ::
      ("yes".toList ++ '"' :: [])) = "ActiveThorns = \"yes\"".toList := by
    decide
  rw [← htext]
  exact .intro allBlank_nil (by decide) (by decide) (by decide)
    (words_eq_iff.1 (by decide +kernel)) allBlank_nil

/-- A thorn by the name of `yes` does not come out under its name if it is the only one. -/
theorem activeThorns_not_as_listed :
    ¬ ∀ (source : String) (before after : List String) (line : String) (names : List String),
      CutInto source.toList ((before ++ line :: after).map String.toList) →
      (∀ l ∈ before ++ after, Line.ofString? l ≠ none) →
      ListsThorns (names.map String.toList) line.toList →
      (∀ name ∈ names, '"' ∉ name.toList) →
      (∀ l ∈ after, ∀ value, Line.ofString? l ≠ some (.assignment activeThornsKey value)) →
      names ≠ [] → ∃ p, ofSourceNormalized source = .ok p ∧ p.activeThorns = names := by
  intro h
  obtain ⟨p, hp, hthorns⟩ := h "ActiveThorns = \"yes\"" [] [] "ActiveThorns = \"yes\"" ["yes"]
    (cutInto_iff.2 (by decide)) (by simp) listsThorns_flag (by decide) (by simp) (by simp)
  have hone : (ofSourceNormalized "ActiveThorns = \"yes\"").map activeThorns = .ok ["1"] := by
    decide +kernel
  rw [hp] at hone
  exact absurd (hthorns.symm.trans (Except.ok.inj hone)) (by decide)

end Parameters

end GridSetup
