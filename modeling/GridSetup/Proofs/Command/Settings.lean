import GridSetup.Command.Run
import GridSetup.Proofs.Parameters.Entries
import GridSetup.Proofs.Resolution.Stages

/-!
# A setting is a line at the end of the file

A parameter can be set on the command line or by one more line of the file. The
two are read by different readers. An argument is cut at its first equals sign
and both parts are trimmed; a line is scanned for a name and keeps the rest as
it stands. And they are put in at different times, before values are tidied or
along with the text that is tidied afterwards.

Neither difference reaches the grid. The first sign of an assignment is the one
after its name, so both readers cut at the same place, and what one of them
trims the other tidies away: the entry is the same (`readSetting_eq`).
Everything else is about order. Lines added to a text that ends a line are read
after it with its parameters at hand, and if the text is malformed they are not
read at all, so that the error is that of the text.
-/

namespace GridSetup.Command

open GridSetup.Parameter GridSetup.Parameters GridSetup.Text

/-- A string of one line that the scanner takes as an assignment. -/
def IsAssignment (r : String) : Prop :=
  '\n' ∉ r.toList ∧ ∃ key, AssignsTo r.toList key

/-- A text with lines after it. -/
def appendLines (source : String) (rs : List String) : String :=
  String.ofList (source.toList ++ unlines (rs.map String.toList))

/-- The arguments that resolve a file with parameters set one by one. -/
def resolveArguments (path : String) (rs : List String) : List String :=
  "resolve" :: path :: rs.flatMap fun r => ["--set", r]

/-! ## The two readers of an assignment -/

theorem IsAssignment.assigns {r : String} (h : IsAssignment r) :
    ∃ e, Assigns r.toList e := by
  obtain ⟨-, key, hkey⟩ := h
  obtain ⟨value, hassigns⟩ := hkey.assigns
  exact ⟨(key, value), hassigns⟩

theorem readSetting_eq {r : String} {e : String × String}
    (h : Assigns r.toList e) :
    ∃ setting, readSetting r = some setting ∧ tidyEntry setting = e := by
  obtain ⟨name, head, after, hhead, hr, -, rfl⟩ := h
  obtain ⟨htake, hdrop⟩ := cut_at_mark hhead.sign_notMem after
  have hne : name ≠ [] := by
    obtain ⟨c, rest, rfl, -⟩ := hhead.isName.exists_cons
    simp
  refine ⟨(String.ofList name, String.ofList (trim after)), ?_, ?_⟩
  · rw [readSetting, hr]
    simp only [hdrop, htake, hhead.trim_eq, if_neg hne]
  · rw [tidyEntry, foldKey_ofList, tidy_ofList, tidyChars_trim]

/-- Settings in order make the entries of their lines in order. -/
theorem readSettings_eq {rs : List String} (h : ∀ r ∈ rs, IsAssignment r) :
    ∃ settings, rs.mapM readSetting = some settings ∧
      entries? (rs.map String.toList) = some (settings.map tidyEntry) := by
  induction rs with
  | nil => exact ⟨[], rfl, rfl⟩
  | cons r rs ih =>
      obtain ⟨settings, hread, hentries⟩ :=
        ih fun r hr => h r (List.mem_cons_of_mem _ hr)
      obtain ⟨e, he⟩ := (h r List.mem_cons_self).assigns
      obtain ⟨setting, hsetting, rfl⟩ := readSetting_eq he
      refine ⟨setting :: settings, ?_, ?_⟩
      · rw [List.mapM_cons, hsetting, hread]
        rfl
      · rw [List.map_cons, entries?_cons, Line.entries?_of_assigns he, hentries]
        rfl

/-! ## Reading on -/

theorem ofSource_append {source : List Char} (h : LineStart source)
    (rest : List Char) :
    ofSource (String.ofList (source ++ rest)) =
      (ofSource (String.ofList source)).bind fun p =>
        p.addLines (1 + (lines source).length)
          ((lines rest).map String.ofList) := by
  rw [ofSource, ofSource, ofLines, ofLines, String.toList_ofList,
    String.toList_ofList, lines_append h, List.map_append, addLines_append,
    List.length_map]

/-- Well-formed lines are read as if their entries were put in. -/
theorem addLines_entries {cs : List Char} {pairs : List (String × String)}
    (h : textEntries? cs = some (pairs.map tidyEntry)) (p : Parameters)
    (number : Nat) :
    ∃ q, p.addLines number ((lines cs).map String.ofList) = .ok q ∧
      q.normalize = (p.insertAll pairs).normalize := by
  rcases normalize_addLines p number (lines cs) with
    ⟨es, q, hes, hq, hn⟩ | ⟨e, hes, -⟩
  · have hsame : es = pairs.map tidyEntry := Option.some.inj (hes.symm.trans h)
    refine ⟨q, hq, ?_⟩
    rw [hn, hsame, normalize_insertAll,
      table_insertAll (normalized_normalize p)]
  · have hnone : textEntries? cs = none := hes
    rw [hnone] at h
    cases h

theorem resolveSource_appendLines {source : String} {rs : List String}
    {settings : List (String × String)} (h : LineStart source.toList)
    (hrs : ∀ r ∈ rs, '\n' ∉ r.toList)
    (hentries : entries? (rs.map String.toList) =
      some (settings.map tidyEntry)) (d : Defaults) :
    resolveSource d (appendLines source rs) =
      (ofSource source).bind fun p => resolve d (p.insertAll settings) := by
  have hlines : textEntries? (unlines (rs.map String.toList)) =
      some (settings.map tidyEntry) := by
    rw [textEntries?_unlines, hentries]
    intro l hl
    obtain ⟨r, hr, rfl⟩ := List.mem_map.1 hl
    exact hrs r hr
  rw [resolveSource_eq, appendLines, ofSource_append h, String.ofList_toList]
  cases ofSource source with
  -- a malformed text is reported before any of the lines is reached
  | error e => rfl
  | ok p =>
      obtain ⟨q, hq, hn⟩ := addLines_entries hlines p
        (1 + (lines source.toList).length)
      show (p.addLines _ _).bind (resolve d) = _
      rw [hq]
      exact resolve_congr hn d

/-! ## The command line -/

theorem hyphen_not_first {r : String} {e : String × String}
    (h : Assigns r.toList e) : r.toList.head? ≠ some '-' := by
  obtain ⟨name, head, after, ⟨hn, w, w', hw, -, rfl⟩, hr, -, -⟩ := h
  rw [hr]
  intro hhead
  cases w with
  | nil =>
      obtain ⟨c, rest, rfl, hc⟩ := hn.exists_cons
      obtain rfl : c = '-' := by simpa using hhead
      revert hc
      decide +kernel
  | cons c ws =>
      obtain rfl : c = '-' := by simpa using hhead
      have hblank := hw '-' List.mem_cons_self
      revert hblank
      decide

/-- An assignment is never mistaken for an option. -/
theorem isValue_of_assigns {r : String} {e : String × String}
    (h : Assigns r.toList e) : isValue r = true := by
  have hstart : r.startsWith "-" = false := by
    rw [String.startsWith_string_eq_false_iff]
    rintro ⟨rest, hrest⟩
    apply hyphen_not_first h
    rw [← hrest]
    rfl
  rw [isValue, hstart]
  simp

/-- One option and its value. -/
theorem readCommand_set {g : Given} {r : String} {setting : String × String}
    (hvalue : isValue r = true) (hread : readSetting r = some setting)
    (rest : List String) :
    readCommand .resolve g none ("--set" :: r :: rest) =
      readCommand .resolve { g with settings := g.settings ++ [setting] } none
        rest := by
  have hoption : isValue "--set" = false := by decide +kernel
  have hname : readOption .resolve g "--set" = some (g, some .set) := rfl
  have hgiven : g.option .set r =
      some { g with settings := g.settings ++ [setting] } := by
    rw [Given.option, hread]
    rfl
  rw [readCommand, hoption, hname]
  simp only [Bool.false_eq_true, if_false, Option.isSome_none,
    String.reduceEq, Option.bind_eq_bind, Option.bind_some]
  rw [readCommand, hvalue]
  simp only [if_true, hgiven, Option.bind_eq_bind, Option.bind_some]

/-- A run of options adds their settings in order. -/
theorem readCommand_sets {rs : List String} {settings : List (String × String)}
    (h : ∀ r ∈ rs, IsAssignment r) (hread : rs.mapM readSetting = some settings)
    (g : Given) :
    readCommand .resolve g none (rs.flatMap fun r => ["--set", r]) =
      some { g with settings := g.settings ++ settings } := by
  induction rs generalizing g settings with
  | nil =>
      rw [List.mapM_nil] at hread
      cases hread
      rw [List.append_nil]
      rfl
  | cons r rs ih =>
      obtain ⟨e, he⟩ := (h r List.mem_cons_self).assigns
      rw [List.mapM_cons] at hread
      obtain ⟨setting, hsetting, hread⟩ := Option.bind_eq_some_iff.1 hread
      obtain ⟨rest, hrest, hread⟩ := Option.bind_eq_some_iff.1 hread
      cases hread
      show readCommand .resolve g none
        ("--set" :: r :: rs.flatMap fun r => ["--set", r]) = _
      rw [readCommand_set (isValue_of_assigns he) hsetting,
        ih (fun r hr => h r (List.mem_cons_of_mem _ hr)) hrest]
      simp

theorem ofArguments_resolve {path : String} {rs : List String}
    {settings : List (String × String)} (hpath : isValue path = true)
    (h : ∀ r ∈ rs, IsAssignment r)
    (hread : rs.mapM readSetting = some settings) :
    Request.ofArguments (resolveArguments path rs) =
      some (.resolve ⟨path, .text, none, settings⟩) := by
  have hname : isValue "resolve" = true := by decide +kernel
  have hgiven : Given.nothing.withPath path =
      some { Given.nothing with path := some path } := rfl
  rw [Request.ofArguments, resolveArguments, readProgram, hname]
  simp only [if_true]
  rw [readRequest, readCommand, hpath]
  simp only [if_true, hgiven, Option.bind_eq_bind, Option.bind_some,
    readCommand_sets h hread]
  rfl

/-! ## Settings and lines -/

/-- Resolving parameters that were read is resolving their text. And setting
parameters one by one, with a text that ends its last line, resolves as the text
does with those assignments as lines after it, errors included. On the command
line they are set one by one. -/
theorem settings_are_lines (d : Defaults) :
    (∀ source, (ofSource source).bind (resolve d) = resolveSource d source) ∧
    ∀ source rs, LineStart source.toList → (∀ r ∈ rs, IsAssignment r) →
      ∃ settings, rs.mapM readSetting = some settings ∧
        ((ofSource source).bind fun p => resolve d (p.insertAll settings)) =
          resolveSource d (appendLines source rs) ∧
        ∀ files path, isValue path = true →
          Defaults.ofLayers files [Layer.beside path] = .ok d →
          readParameterFile files path = .ok source →
          ∃ request, Request.ofArguments (resolveArguments path rs) =
              some (.resolve request) ∧
            request.run files = resolveSource d (appendLines source rs) := by
  refine ⟨fun source => (resolveSource_eq d source).symm, ?_⟩
  intro source rs hsource hrs
  obtain ⟨settings, hread, hentries⟩ := readSettings_eq hrs
  have hresolve := resolveSource_appendLines hsource (fun r hr => (hrs r hr).1)
    hentries d
  refine ⟨settings, hread, hresolve.symm, ?_⟩
  intro files path hpath hd hfile
  refine ⟨_, ofArguments_resolve hpath hrs hread, ?_⟩
  -- the defaults come first, so nothing of the file can get in their way
  rw [ResolveRequest.run, ResolveRequest.layers, hfile, hresolve]
  show (Defaults.ofLayers files [Layer.beside path] >>= _) = _
  rw [hd]
  rfl

/-- One setting in capitals, with blanks and quotes, and one whose value is a
sign, beside a file with one line. -/
theorem settings_are_lines_pair :
    ∃ request, Request.ofArguments (resolveArguments "run.par"
          [" Grid::Type\t= \"box\" ", "a::b=="]) = some (.resolve request) ∧
      request.run (fun path => if path = "run.par" then
          some (.file (.text "grid::type = byrange\r\n")) else none) =
        resolveSource Defaults.standard (appendLines
          "grid::type = byrange\r\n" [" Grid::Type\t= \"box\" ", "a::b=="]) := by
  have hrs : ∀ r ∈ [" Grid::Type\t= \"box\" ", "a::b=="], IsAssignment r := by
    intro r hr
    rcases List.mem_cons.1 hr with rfl | hr
    · exact ⟨by decide +kernel, "grid::type", "\"box\" ", by decide +kernel⟩
    · rw [List.mem_singleton.1 hr]
      exact ⟨by decide +kernel, "a::b", "=", by decide +kernel⟩
  have hsource : LineStart "grid::type = byrange\r\n".toList :=
    Or.inr ⟨"grid::type = byrange\r".toList, by decide +kernel⟩
  obtain ⟨settings, -, -, hrun⟩ :=
    (settings_are_lines Defaults.standard).2 _ _ hsource hrs
  exact hrun _ "run.par" (by decide +kernel) rfl (by decide +kernel)

end GridSetup.Command
