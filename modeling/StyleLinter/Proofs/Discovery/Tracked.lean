import Mathlib
import StyleLinter.Proofs.Discovery.PassedOn
import StyleLinter.Proofs.Utf8

/-!
# Names that version control prints

The program for version control prints names with NUL characters between them, and as many of these
as it likes (`Separates`). The names are cut out as they stand (`namesIn_of_separates`), but before
that the output is read as text, with **every carriage return made a line feed**. A name that has
none is given as it was printed, and one that has some is given as another name
(`outcome_askProgram_of_separates`). So a file with such a name is not found, although it was
listed and is there (`tracked_files_found_iff`).
-/

namespace StyleLinter

namespace Discovery

open Files

variable {host : Host} {names : List Text} {t : Text}

/-! ### Names with separators -/

/-- Is this a text of names that are separated, or ended, by NUL characters? There may be any number
of further ones. -/
inductive Separates : List Text → Text → Prop
  /-- There are no names. -/
  | nil : Separates [] []
  /-- A further NUL character. -/
  | nul {names : List Text} {t : Text} : Separates names t → Separates names ('\x00' :: t)
  /-- A name that nothing ends: it is the last one. -/
  | last {name : Text} : name ≠ [] → '\x00' ∉ name → Separates [name] name
  /-- A name that a NUL character ends. -/
  | name {name : Text} {names : List Text} {t : Text} : name ≠ [] → '\x00' ∉ name →
      Separates names t → Separates (name :: names) (name ++ '\x00' :: t)

/-- **Names are cut out as they stand.** -/
theorem namesIn_of_separates (h : Separates names t) : namesIn t = names := by
  have hkeep {name : Text} (hne : name ≠ []) (names : List Text) :
      (name :: names).filter (!·.isEmpty) = name :: names.filter (!·.isEmpty) := by
    refine List.filter_cons_of_pos ?_
    rw [Bool.not_eq_true', List.isEmpty_eq_false_iff]
    exact hne
  induction h with
  | nil => rfl
  | nul _ ih =>
    rw [namesIn, Text.pieces_cons_sep]
    exact ih
  | last hne hnul =>
    rw [namesIn, Text.pieces_of_not_mem hnul]
    exact hkeep hne []
  | name hne hnul _ ih =>
    rw [namesIn, Text.pieces_append hnul, hkeep hne]
    exact congrArg _ ih

/-- **Making line endings alike does so name by name.** -/
theorem Separates.unifyNewlines (h : Separates names t) :
    Separates (names.map Text.unifyNewlines) (Text.unifyNewlines t) := by
  have hnul {name : Text} (h : '\x00' ∉ name) : '\x00' ∉ Text.unifyNewlines name := fun hmem ↦
    (Text.mem_of_mem_unifyNewlines hmem).elim (by decide) h
  -- the NUL characters themselves stay
  have hcons (t : Text) : Text.unifyNewlines ('\x00' :: t) = '\x00' :: Text.unifyNewlines t :=
    Text.unifyNewlines.eq_3 _ _ fun _ h ↦ absurd h (by decide)
  induction h with
  | nil => exact .nil
  | nul _ ih =>
    rw [hcons]
    exact .nul ih
  | last hne hmem => exact .last (Text.unifyNewlines_ne_nil hne) (hnul hmem)
  | name hne hmem _ ih =>
    rw [Text.unifyNewlines_append _ (by rw [List.head?_cons]; decide), hcons]
    exact .name (Text.unifyNewlines_ne_nil hne) (hnul hmem) ih

/-! ### Names that a program answers with -/

/-- Does the program for version control run in a directory, asked for the files under a root? -/
structure Runs (host : Host) (dir : Path) (rootText extension : Text) (p : Program) : Prop where
  git : host.git = some p
  command : ∀ word ∈ listingCommand programName rootText extension, '\x00' ∉ word
  directory : enterDirectory host (listingCommand programName rootText extension) dir = .ok ()

section Program

variable {dir : Path} {rootText extension : Text} {p : Program}

/-- A program that runs is listened to. -/
theorem outcome_askProgram_of_runs (h : Runs host dir rootText extension p) :
    (askProgram host programName dir rootText extension).outcome =
      answeredNames (listingCommand programName rootText extension) dir p := by
  have hany : (listingCommand programName rootText extension).any (·.contains '\x00') = false := by
    simpa only [List.any_eq_false, List.contains_iff_mem] using h.command
  have hfind : findProgram host (listingCommand programName rootText extension) dir = .ok p := by
    unfold findProgram
    dsimp only [listingCommand, List.headD_cons]
    rw [if_neg (by decide), h.git]
    exact if_pos rfl
  rw [Search.outcome_askProgram, hany, h.directory, hfind]
  rfl

/-- **What a program that ends well has answered**: its names, with all line endings alike, as long
as what it says besides is text. -/
theorem outcome_askProgram_of_separates (h : Runs host dir rootText extension p)
    (hstatus : p.status = 0) (hnames : Separates names t) (houtput : p.output = Utf8.encode t) :
    (askProgram host programName dir rootText extension).outcome =
      (printedText p.errors).map fun _ ↦ names.map Text.unifyNewlines := by
  have hprinted : printedText p.output = .ok (Text.unifyNewlines t) := by
    rw [printedText, houtput, Utf8.decode_encode]
  rw [outcome_askProgram_of_runs h, answeredNames, hprinted]
  cases printedText p.errors with
  | error f => rfl
  | ok errors =>
    rw [← namesIn_of_separates hnames.unifyNewlines]
    exact if_pos hstatus

/-- **The names are given as they were printed** exactly if no carriage return is among them, and if
what the program says besides is text. -/
theorem askProgram_faithful_iff (h : Runs host dir rootText extension p) (hstatus : p.status = 0)
    (hnames : Separates names t) (houtput : p.output = Utf8.encode t) :
    (askProgram host programName dir rootText extension).outcome = .ok names ↔
      (∃ said, Utf8.decode p.errors = .ok said) ∧ ∀ name ∈ names, '\r' ∉ name := by
  have hsame : names.map Text.unifyNewlines = names ↔ ∀ name ∈ names, '\r' ∉ name := by
    conv_lhs => rhs; rw [← List.map_id names]
    rw [List.map_inj_left]
    exact forall₂_congr fun _ _ ↦ Text.unifyNewlines_eq_self_iff
  rw [outcome_askProgram_of_separates h hstatus hnames houtput, map_eq_ok_iff, exists_and_right,
    exists_printedText_iff, hsame]

end Program

/-! ### Files that version control knows -/

namespace Search

variable {s : Search} {root : Path} {p : Program} {files : List Path}

section Runs

variable (hlister : s.lister = some (.program programName))
  (hruns : Runs host s.base root s.extension p) (hstatus : p.status = 0)
  (hnames : Separates names t) (houtput : p.output = Utf8.encode t)

include hlister hruns hstatus hnames houtput

/-- The candidates are the paths that the names spell, with all line endings alike. -/
theorem candidates_of_separates {candidates : List Path} :
    (s.candidates host root).outcome = .ok candidates ↔
      (∃ said, Utf8.decode p.errors = .ok said) ∧
        candidates = names.map fun name ↦ Path.ofText (Text.unifyNewlines name) := by
  have hfilter : (names.map Text.unifyNewlines).filter (!·.isEmpty) =
      names.map Text.unifyNewlines := by
    rw [← namesIn_of_separates hnames.unifyNewlines, namesIn, List.filter_filter]
    simp only [Bool.and_self]
  rw [candidates_eq_ok_iff_of_lister hlister]
  change (∃ answered, (askProgram host programName s.base root s.extension).outcome =
    .ok answered ∧ _) ↔ _
  rw [outcome_askProgram_of_separates hruns hstatus hnames houtput, ← exists_printedText_iff]
  constructor
  · rintro ⟨answered, h, rfl⟩
    obtain ⟨said, hsaid, rfl⟩ := map_eq_ok_iff.mp h
    exact ⟨⟨said, hsaid⟩, by rw [hfilter, List.map_map]; rfl⟩
  · rintro ⟨⟨said, hsaid⟩, rfl⟩
    exact ⟨_, map_eq_ok_iff.mpr ⟨said, hsaid, rfl⟩, by rw [hfilter, List.map_map]; rfl⟩

/-- The files are found if each name can be looked at. -/
theorem exists_files_of_separates (hroot : root ≠ Path.here) :
    (∃ files, (s.files host root).outcome = .ok files) ↔
      (∃ said, Utf8.decode p.errors = .ok said) ∧
        ∀ name ∈ names, s.Decides host root (Path.ofText (Text.unifyNewlines name)) := by
  have hcandidates {candidates : List Path} :
      (s.candidates host root).outcome = .ok candidates ↔ _ :=
    candidates_of_separates hlister hruns hstatus hnames houtput
  constructor
  · rintro ⟨files, h⟩
    obtain ⟨-, candidates, h, hdecides, -⟩ := files_eq_ok_iff.mp h
    obtain ⟨hsaid, rfl⟩ := hcandidates.mp h
    exact ⟨hsaid, fun name hname ↦ hdecides _ (List.mem_map_of_mem hname)⟩
  · rintro ⟨hsaid, hdecides⟩
    refine ⟨_, files_eq_ok_iff.mpr ⟨hroot, _, hcandidates.mpr ⟨hsaid, rfl⟩, fun q hq ↦ ?_, rfl⟩⟩
    obtain ⟨name, hname, rfl⟩ := List.mem_map.mp hq
    exact hdecides name hname

/-- **A listed file that is there is found exactly if its name has no carriage return.** -/
theorem mem_files_iff_of_separates (h : (s.files host root).outcome = .ok files) {name : Text}
    (hname : name ∈ names)
    (haggregator : (Path.ofText name).toText ≠ aggregatorText root s.extension)
    (hthere : host.disk.exists? (s.base / Path.ofText name) = .ok true) :
    Path.ofText name ∈ files ↔ '\r' ∉ name := by
  obtain ⟨-, candidates, hcandidates, -, -⟩ := files_eq_ok_iff.mp h
  obtain ⟨-, rfl⟩ :=
    (candidates_of_separates hlister hruns hstatus hnames houtput).mp hcandidates
  rw [mem_files_iff h hcandidates]
  constructor
  · rintro ⟨hmem, -⟩ hreturn
    obtain ⟨other, -, hother⟩ := List.mem_map.mp hmem
    -- the carriage return is in the path, and no candidate has one
    obtain ⟨part, hpart, hc⟩ := Path.exists_mem_parts_ofText (by decide) (by decide) hreturn
    rw [← hother] at hpart
    exact Text.not_mem_unifyNewlines other (Path.mem_of_mem_parts_ofText hpart hc)
  · intro hreturn
    refine ⟨List.mem_map.mpr ⟨name, hname, ?_⟩, haggregator, hthere⟩
    rw [Text.unifyNewlines_eq_self hreturn]

end Runs

/-- **What becomes of the names that version control prints.** They are given with all line endings
alike, so they are given as they were printed exactly if none has a carriage return, and a file that
is there is found exactly if its name has none. -/
theorem tracked_files_found_iff (s : Search) (host : Host) (root : Path) (p : Program)
    (names : List Text) (t : Text) (hlister : s.lister = some (.program programName))
    (hroot : root ≠ Path.here) (hruns : Runs host s.base root s.extension p)
    (hstatus : p.status = 0) (hnames : Separates names t) (houtput : p.output = Utf8.encode t) :
    ((askProgram host programName s.base root s.extension).outcome =
      (printedText p.errors).map fun _ ↦ names.map Text.unifyNewlines) ∧
    ((askProgram host programName s.base root s.extension).outcome = .ok names ↔
      (∃ said, Utf8.decode p.errors = .ok said) ∧ ∀ name ∈ names, '\r' ∉ name) ∧
    ((∃ files, (s.files host root).outcome = .ok files) ↔
      (∃ said, Utf8.decode p.errors = .ok said) ∧
        ∀ name ∈ names, s.Decides host root (Path.ofText (Text.unifyNewlines name))) ∧
    ∀ files, (s.files host root).outcome = .ok files → ∀ name ∈ names,
      (Path.ofText name).toText ≠ aggregatorText root s.extension →
      host.disk.exists? (s.base / Path.ofText name) = .ok true →
        (Path.ofText name ∈ files ↔ '\r' ∉ name) :=
  ⟨outcome_askProgram_of_separates hruns hstatus hnames houtput,
    askProgram_faithful_iff hruns hstatus hnames houtput,
    exists_files_of_separates hlister hruns hstatus hnames houtput hroot,
    fun _ h _ hname haggregator hthere ↦ mem_files_iff_of_separates hlister hruns hstatus hnames
      houtput h hname haggregator hthere⟩

/-! ### A name with a carriage return -/

/-- A workspace with two tracked files, one of which has a carriage return in its name. -/
def returnedHost : Host where
  disk :=
    { tree := ((Tree.empty.put ["A"] (.directory {})).put ["A", "X.lean"] (.file {} [])).put
        ["A", "a\rb.lean"] (.file {} [])
      current := [] }
  git := some ⟨Utf8.encode "\x00A/X.lean\x00\x00A/a\rb.lean\x00".toList, [], 0⟩

/-- A search for tracked files. -/
def returnedSearch : Search where
  base := Path.here
  lister := some (.program programName)

/-- **The name is given with a line feed, and the file is not found.** -/
theorem tracked_files_found_iff_returned :
    (askProgram returnedHost programName Path.here "A" ".lean").outcome =
      .ok ["A/X.lean", "A/a\nb.lean"] ∧
    (askProgram returnedHost programName Path.here "A" ".lean").outcome ≠
      .ok ["A/X.lean", "A/a\rb.lean"] ∧
    ∃ files, (returnedSearch.files returnedHost ⟨0, ["A"]⟩).outcome = .ok files ∧
      ⟨0, ["A", "X.lean"]⟩ ∈ files ∧ ⟨0, ["A", "a\rb.lean"]⟩ ∉ files := by
  have hruns : Runs returnedHost Path.here (⟨0, ["A"]⟩ : Path) ".lean" _ :=
    ⟨rfl, by decide, by cbv⟩
  have hnames : Separates ["A/X.lean", "A/a\rb.lean"]
      "\x00A/X.lean\x00\x00A/a\rb.lean\x00".toList :=
    .nul (.name (by decide) (by decide) (.nul (.name (by decide) (by decide) .nil)))
  obtain ⟨hanswer, hfaithful, hfiles, hfound⟩ := tracked_files_found_iff returnedSearch
    returnedHost ⟨0, ["A"]⟩ _ _ _ rfl (by decide) hruns rfl hnames rfl
  have hdecides : ∀ name ∈ (["A/X.lean", "A/a\rb.lean"] : List Text),
      returnedSearch.Decides returnedHost ⟨0, ["A"]⟩ (Path.ofText (Text.unifyNewlines name)) := by
    intro name hname
    rcases List.mem_pair.mp hname with rfl | rfl
    · exact .inr ⟨true, by cbv⟩
    · exact .inr ⟨false, by cbv⟩
  obtain ⟨files, h⟩ := hfiles.mpr ⟨⟨[], by cbv⟩, hdecides⟩
  refine ⟨hanswer.trans (by cbv), fun h ↦ ?_, files, h, ?_, fun hmem ↦ ?_⟩
  · exact (hfaithful.mp h).2 "A/a\rb.lean" (by decide) (by decide)
  · exact (hfound files h "A/X.lean" (by decide) (by decide) (by cbv)).mpr (by decide)
  · exact (hfound files h "A/a\rb.lean" (by decide) (by decide) (by cbv)).mp hmem (by decide)

end Search

end Discovery

end StyleLinter
