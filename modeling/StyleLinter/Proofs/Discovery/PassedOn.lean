import StyleLinter.Proofs.Discovery.Selected
import StyleLinter.Proofs.Discovery.Trouble
import StyleLinter.Proofs.Failure

/-!
# What a search passes on

A search reports most of what goes wrong as a failure to find files. The rest is passed on as it
comes, and this module says **exactly what the rest is** (`files_passesOn_iff`): the program for
version control is asked and the file system refuses to run it, or it prints bytes that are no text
(`AskingPassesOn`); or the question what a path leads to is refused, be it the path of the root, of
a name that a lister gives or of a name that a walk comes to.
-/

namespace StyleLinter.Discovery

open Files

variable {host : Host} {f : Failure}

/-! ### Asking the program -/

section Program

variable {program rootText extension : Text} {dir : Path} {command : List Text} {p : Program}

/-- What is passed on when a directory is entered. That it is not there is reported. -/
inductive EnteringPassesOn (host : Host) (dir : Path) : Failure → Prop
  /-- The path has a NUL character. -/
  | nul (h : '\x00' ∈ dir.toText) : EnteringPassesOn host dir (.invalid .nulInPath)
  /-- The way to the directory is closed. -/
  | noWay {r : Refusal} (h : host.disk.spot dir = .error (.refused r)) (hr : r ≠ .notFound) :
      EnteringPassesOn host dir (.refusedDirectory r dir)
  /-- The directory itself is closed, or it is none. -/
  | closed {s : Spot} {r : Refusal} (hs : host.disk.spot dir = .ok s)
      (h : host.disk.tree.passage s.place = .error r) :
      EnteringPassesOn host dir (.refusedDirectory r dir)

/-- What is passed on when a program is looked for by a path. No file can be run. -/
inductive FindingPassesOn (host : Host) (dir : Path) (program : Text) : Failure → Prop
  /-- The way to the program is closed. -/
  | noWay {r : Refusal} (hslash : '/' ∈ program)
      (h : host.disk.spot (dir / Path.ofText program) = .error (.refused r)) (hr : r ≠ .notFound) :
      FindingPassesOn host dir program (.refusedCommand r program)
  /-- Something is there. -/
  | noProgram {s : Spot} (hslash : '/' ∈ program)
      (h : host.disk.spot (dir / Path.ofText program) = .ok s) :
      FindingPassesOn host dir program (.refusedCommand .denied program)

/-- What is passed on when an answer is read: bytes that are no text. -/
inductive AnswerPassesOn (p : Program) : Failure → Prop
  /-- The names are no text. -/
  | output {fault : Utf8.Fault} (h : Utf8.decode p.output = .error fault) :
      AnswerPassesOn p (.notText fault)
  /-- What is printed about errors is no text. -/
  | errors {t : Text} {fault : Utf8.Fault} (houtput : Utf8.decode p.output = .ok t)
      (h : Utf8.decode p.errors = .error fault) : AnswerPassesOn p (.notText fault)

/-- **What is passed on when the program for version control is asked** for the files under a
root. -/
inductive AskingPassesOn (host : Host) (program : Text) (dir : Path) (rootText extension : Text) :
    Failure → Prop
  /-- The command has a NUL character. -/
  | nul {word : Text} (hword : word ∈ listingCommand program rootText extension)
      (h : '\x00' ∈ word) :
      AskingPassesOn host program dir rootText extension (.invalid .nulInPath)
  /-- The directory is entered. -/
  | entering {f : Failure} (hcommand : ∀ word ∈ listingCommand program rootText extension, '\x00' ∉ word)
      (h : EnteringPassesOn host dir f) :
      AskingPassesOn host program dir rootText extension f
  /-- The program is looked for. -/
  | finding {f : Failure} (hcommand : ∀ word ∈ listingCommand program rootText extension, '\x00' ∉ word)
      (hdir : enterDirectory host (listingCommand program rootText extension) dir = .ok ())
      (h : FindingPassesOn host dir program f) :
      AskingPassesOn host program dir rootText extension f
  /-- The answer is read. -/
  | answer {p : Program} {f : Failure}
      (hcommand : ∀ word ∈ listingCommand program rootText extension, '\x00' ∉ word)
      (hdir : enterDirectory host (listingCommand program rootText extension) dir = .ok ())
      (hp : findProgram host (listingCommand program rootText extension) dir = .ok p)
      (h : AnswerPassesOn p f) : AskingPassesOn host program dir rootText extension f

theorem enterDirectory_passesOn_iff :
    enterDirectory host command dir = .error f ∧ f.isDiscovery = false ↔
      EnteringPassesOn host dir f := by
  unfold enterDirectory
  constructor
  · rintro ⟨h, hf⟩
    split at h
    · next hs =>
      obtain rfl := Except.error.inj h
      exact .nul (Disk.spot_eq_nul_iff.mp hs)
    · obtain rfl := Except.error.inj h
      cases hf
    · next r hr hs =>
      obtain rfl := Except.error.inj h
      exact .noWay hs hr
    · next s hs =>
      split at h
      · next r hpassage =>
        obtain rfl := Except.error.inj h
        exact .closed hs hpassage
      · cases h
  · intro h
    cases h with
    | nul h =>
      rw [Disk.spot_eq_nul_iff.mpr h]
      exact ⟨rfl, rfl⟩
    | @noWay r h hr =>
      rw [h]
      cases r with
      | notFound => exact absurd rfl hr
      | denied | alreadyExists | notDirectory | isDirectory | nameTooLong | tooManyLinks =>
        exact ⟨rfl, rfl⟩
    | closed hs h =>
      simp only [hs, h]
      exact ⟨trivial, rfl⟩

/-- The path of a directory that is entered has no NUL character. -/
theorem not_mem_of_enterDirectory (h : enterDirectory host command dir = .ok ()) :
    '\x00' ∉ dir.toText := by
  intro hmem
  rw [enterDirectory, Disk.spot_eq_nul_iff.mpr hmem] at h
  exact absurd h nofun

theorem findProgram_passesOn_iff {arguments : List Text} (hdir : '\x00' ∉ dir.toText)
    (hprogram : '\x00' ∉ program) :
    findProgram host (program :: arguments) dir = .error f ∧ f.isDiscovery = false ↔
      FindingPassesOn host dir program f := by
  have hnul : host.disk.spot (dir / Path.ofText program) ≠ .error .nul := fun h ↦
    Path.not_mem_toText_join (by decide) (by decide) hdir hprogram (Disk.spot_eq_nul_iff.mp h)
  unfold findProgram
  dsimp only [List.headD_cons]
  constructor
  · rintro ⟨h, hf⟩
    split at h
    · next hslash =>
      have hslash := List.contains_iff_mem.mp hslash
      split at h
      · obtain rfl := Except.error.inj h
        exact absurd hf nofun
      · next r hr hs =>
        obtain rfl := Except.error.inj h
        exact .noWay hslash hs hr
      · next hs => exact absurd hs hnul
      · next s hs =>
        obtain rfl := Except.error.inj h
        exact .noProgram hslash hs
    · -- a program without a path is there or not
      split at h
      · split at h
        · exact absurd h nofun
        · obtain rfl := Except.error.inj h
          exact absurd hf nofun
      · obtain rfl := Except.error.inj h
        exact absurd hf nofun
  · intro h
    cases h with
    | @noWay r hslash h hr =>
      rw [if_pos (List.contains_iff_mem.mpr hslash), h]
      cases r with
      | notFound => exact absurd rfl hr
      | denied | alreadyExists | notDirectory | isDirectory | nameTooLong | tooManyLinks =>
        exact ⟨rfl, rfl⟩
    | noProgram hslash h =>
      rw [if_pos (List.contains_iff_mem.mpr hslash), h]
      exact ⟨rfl, rfl⟩

theorem printedText_eq_error_iff {bytes : Bytes} :
    printedText bytes = .error f ↔ ∃ fault, Utf8.decode bytes = .error fault ∧ f = .notText fault := by
  unfold printedText
  cases Utf8.decode bytes <;> simp [eq_comm]

theorem exists_printedText_iff {bytes : Bytes} :
    (∃ t, printedText bytes = .ok t) ↔ ∃ t, Utf8.decode bytes = .ok t := by
  unfold printedText
  cases Utf8.decode bytes <;> simp

theorem answeredNames_passesOn_iff :
    answeredNames command dir p = .error f ∧ f.isDiscovery = false ↔ AnswerPassesOn p f := by
  unfold answeredNames
  constructor
  · rintro ⟨h, hf⟩
    rcases bind_eq_error_iff.mp h with h | ⟨output, houtput, h⟩
    · obtain ⟨fault, hfault, rfl⟩ := printedText_eq_error_iff.mp h
      exact .output hfault
    · obtain ⟨t, ht⟩ := exists_printedText_iff.mp ⟨output, houtput⟩
      rcases bind_eq_error_iff.mp h with h | ⟨errors, -, h⟩
      · obtain ⟨fault, hfault, rfl⟩ := printedText_eq_error_iff.mp h
        exact .errors ht hfault
      · -- the texts are there, so the answer is the names or what went wrong
        split at h
        · exact absurd h nofun
        · obtain rfl := Except.error.inj h
          exact absurd hf nofun
  · intro h
    cases h with
    | output h =>
      exact ⟨bind_eq_error_iff.mpr (.inl (printedText_eq_error_iff.mpr ⟨_, h, rfl⟩)), rfl⟩
    | errors houtput h =>
      obtain ⟨output, houtput⟩ := exists_printedText_iff.mpr ⟨_, houtput⟩
      exact ⟨bind_eq_error_iff.mpr (.inr ⟨output, houtput,
        bind_eq_error_iff.mpr (.inl (printedText_eq_error_iff.mpr ⟨_, h, rfl⟩))⟩), rfl⟩

/-- **Asking the program passes on exactly this.** -/
theorem askProgram_passesOn_iff :
    (askProgram host program dir rootText extension).outcome = .error f ∧ f.isDiscovery = false ↔
      AskingPassesOn host program dir rootText extension f := by
  rw [Search.outcome_askProgram]
  by_cases hnul : ∀ word ∈ listingCommand program rootText extension, '\x00' ∉ word
  · have hany : (listingCommand program rootText extension).any (·.contains '\x00') = false := by
      simpa only [List.any_eq_false, List.contains_iff_mem] using hnul
    have hprogram : '\x00' ∉ program := hnul _ List.mem_cons_self
    rw [hany, if_neg Bool.false_ne_true]
    constructor
    · rintro ⟨h, hf⟩
      rcases bind_eq_error_iff.mp h with h | ⟨_, hdir, h⟩
      · exact .entering hnul (enterDirectory_passesOn_iff.mp ⟨h, hf⟩)
      · rcases bind_eq_error_iff.mp h with h | ⟨p, hp, h⟩
        · exact .finding hnul hdir
            ((findProgram_passesOn_iff (not_mem_of_enterDirectory hdir) hprogram).mp ⟨h, hf⟩)
        · exact .answer hnul hdir hp (answeredNames_passesOn_iff.mp ⟨h, hf⟩)
    · intro h
      cases h with
      | nul hword h => exact absurd h (hnul _ hword)
      | entering _ h =>
        obtain ⟨h, hf⟩ := enterDirectory_passesOn_iff.mpr h
        exact ⟨bind_eq_error_iff.mpr (.inl h), hf⟩
      | finding _ hdir h =>
        obtain ⟨h, hf⟩ :=
          (findProgram_passesOn_iff (not_mem_of_enterDirectory hdir) hprogram).mpr h
        exact ⟨bind_eq_error_iff.mpr (.inr ⟨(), hdir, bind_eq_error_iff.mpr (.inl h)⟩), hf⟩
      | answer _ hdir hp h =>
        obtain ⟨h, hf⟩ := answeredNames_passesOn_iff.mpr h
        exact ⟨bind_eq_error_iff.mpr (.inr ⟨(), hdir, bind_eq_error_iff.mpr (.inr ⟨_, hp, h⟩)⟩), hf⟩
  · obtain ⟨word, hword, h⟩ : ∃ word ∈ listingCommand program rootText extension, '\x00' ∈ word := by
      simpa only [not_forall, not_not, exists_prop] using hnul
    have hany : (listingCommand program rootText extension).any (·.contains '\x00') = true :=
      List.any_eq_true.mpr ⟨word, hword, List.contains_iff_mem.mpr h⟩
    rw [hany, if_pos rfl]
    constructor
    · rintro ⟨he, -⟩
      obtain rfl := Except.error.inj he
      exact .nul hword h
    · intro hf
      cases hf with
      | nul => exact ⟨rfl, rfl⟩
      | entering hcommand | finding hcommand | answer hcommand => exact absurd hcommand hnul

end Program

/-! ### Walks -/

/-- **A walk from a root fails** if the path of the root cannot be asked about, if it leads to no
directory, and with the first trouble below it. -/
theorem walkRoot_eq_error_iff {base root : Path} {extension : Text} :
    walkRoot host base root extension = .error f ↔
      (∃ r, host.disk.kind? (base / root) = .error (.refused r) ∧ f = .refused r (base / root)) ∨
      (∃ k, host.disk.kind? (base / root) = .ok k ∧ k ≠ some .directory ∧
        f = .discovery (base / root) .notDirectory) ∨
      ∃ names, IsFirstTrouble host.disk (base / root) names f := by
  unfold walkRoot
  dsimp only
  constructor
  · intro h
    split at h
    · next o ho =>
      obtain rfl := Except.error.inj h
      have ho := map_eq_error_iff.mp ho
      obtain ⟨r, rfl⟩ := Disk.exists_refusal_of_kind? ho
      exact .inl ⟨r, ho, rfl⟩
    · next hdirectory =>
      obtain rfl := Except.error.inj h
      obtain ⟨k, hk, hno⟩ := map_eq_ok_iff.mp hdirectory
      exact .inr (.inl ⟨k, hk, by simpa using hno, rfl⟩)
    · next hdirectory =>
      obtain ⟨s, hs, hkind⟩ := Disk.isDirectory?_eq_true_iff.mp hdirectory
      rw [hs] at h
      exact .inr (.inr ((walk_eq_error_iff hs hkind).mp h))
  · rintro (⟨r, hr, rfl⟩ | ⟨k, hk, hno, rfl⟩ | ⟨names, hfirst⟩)
    · rw [Disk.isDirectory?, hr]
      rfl
    · have hdirectory : host.disk.isDirectory? (base / root) = .ok false :=
        map_eq_ok_iff.mpr ⟨k, hk, by simpa using hno⟩
      rw [hdirectory]
    · obtain ⟨s, hs, hkind⟩ := hfirst.trouble.isDirectory
      rw [Disk.isDirectory?_eq_true_iff.mpr ⟨s, hs, hkind⟩]
      dsimp only
      rw [hs]
      exact (walk_eq_error_iff hs hkind).mpr ⟨names, hfirst⟩

/-- What a walk has found can be asked about. -/
theorem kind?_of_mem_walkRoot {base root p : Path} {extension : Text} {ps : List Path}
    (hroot : root.slashes = 0) (h : walkRoot host base root extension = .ok ps) (hp : p ∈ ps) :
    host.disk.kind? (base / p) = .ok (some .file) := by
  obtain ⟨names, hleads, rfl⟩ := (mem_walkRoot_iff h).mp hp
  rw [Path.join_below hroot]
  exact hleads.kind

/-! ### Searches -/

namespace Search

variable {s : Search} {root p : Path}

/-- **What is passed on when the files of a root are searched.** -/
inductive PassesOn (s : Search) (host : Host) (root : Path) : Failure → Prop
  /-- The program for version control is asked. -/
  | asking {program : Text} {f : Failure} (hlister : s.lister = some (.program program))
      (h : AskingPassesOn host program s.base root s.extension f) : PassesOn s host root f
  /-- Whether a file that a lister names is there cannot be found out. -/
  | named {lister : Lister} {before after : List Path} {p : Path} {r : Refusal}
      (hlister : s.lister = some lister)
      (hcandidates : (s.candidates host root).outcome = .ok (before ++ p :: after))
      (hbefore : ∀ q ∈ before, s.Decides host root q)
      (hp : p.toText ≠ aggregatorText root s.extension)
      (h : host.disk.kind? (s.base / p) = .error (.refused r)) :
      PassesOn s host root (.refused r (s.base / p))
  /-- Whether the root is a directory cannot be found out. -/
  | root {r : Refusal} (hlister : s.lister = none)
      (h : host.disk.kind? (s.base / root) = .error (.refused r)) :
      PassesOn s host root (.refused r (s.base / root))
  /-- The first trouble below the root is a name that cannot be asked about. -/
  | below {names : List Text} {r : Refusal} {p : Path} (hlister : s.lister = none)
      (h : IsFirstTrouble host.disk (s.base / root) names (.refused r p)) :
      PassesOn s host root (.refused r p)

/-- **It fails to keep a candidate** that it cannot ask about. -/
theorem keep_eq_error_iff : (s.keep host root p).outcome = .error f ↔
    p.toText ≠ aggregatorText root s.extension ∧
      ∃ r, host.disk.kind? (s.base / p) = .error (.refused r) ∧ f = .refused r (s.base / p) := by
  unfold keep
  constructor
  · intro h
    split at h
    · exact absurd h nofun
    · next hp =>
      split at h
      · next o ho =>
        obtain rfl := Except.error.inj h
        have ho := map_eq_error_iff.mp ho
        obtain ⟨r, rfl⟩ := Disk.exists_refusal_of_kind? ho
        exact ⟨hp, r, ho, rfl⟩
      · exact absurd h nofun
      · exact absurd h nofun
  · rintro ⟨hp, r, hr, rfl⟩
    rw [if_neg hp, Disk.exists?, hr]
    rfl

/-- **The steps of a search that fails.** -/
theorem files_eq_error_iff : (s.files host root).outcome = .error f ↔
    (root = Path.here ∧ f = .discovery root .noRoot) ∨
    (root ≠ Path.here ∧ ((s.candidates host root).outcome = .error f ∨
      ∃ before p after, (s.candidates host root).outcome = .ok (before ++ p :: after) ∧
        (∀ q ∈ before, s.Decides host root q) ∧ (s.keep host root p).outcome = .error f)) := by
  -- a candidate is passed if it can be decided whether it is kept
  have hpassed {q : Path} : (∃ kept, (s.keep host root q).outcome = .ok kept) ↔
      s.Decides host root q :=
    ⟨fun ⟨_, h⟩ ↦ (keep_eq_ok_iff.mp h).1, fun h ↦ ⟨_, keep_eq_ok_iff.mpr ⟨h, rfl⟩⟩⟩
  have hmapM {candidates : List Path} :
      (candidates.mapM (s.keep host root)).outcome = .error f ↔ ∃ before p after,
        candidates = before ++ p :: after ∧ (∀ q ∈ before, s.Decides host root q) ∧
          (s.keep host root p).outcome = .error f := by
    rw [Attempt.outcome_mapM, mapM_eq_error_iff]
    simp only [hpassed]
  rw [files, Attempt.outcome_bind_eq_error_iff]
  by_cases hhere : root = Path.here
  · have htext : rootText root = .error (.discovery root .noRoot) := if_pos hhere
    constructor
    · rintro (h | ⟨_, h, -⟩)
      · exact .inl ⟨hhere, (Except.error.inj (htext.symm.trans h)).symm⟩
      · exact absurd (htext.symm.trans h) nofun
    · rintro (⟨-, rfl⟩ | ⟨hne, -⟩)
      · exact .inl htext
      · exact absurd hhere hne
  · have htext : rootText root = .ok root.toText := if_neg hhere
    constructor
    · rintro (h | ⟨_, -, h⟩)
      · exact absurd (htext.symm.trans h) nofun
      · rcases Attempt.outcome_bind_eq_error_iff.mp h with h | ⟨candidates, hcandidates, h⟩
        · exact .inr ⟨hhere, .inl h⟩
        · rcases Attempt.outcome_bind_eq_error_iff.mp h with h | ⟨_, -, h⟩
          · obtain ⟨before, p, after, rfl, hbefore, hp⟩ := hmapM.mp h
            exact .inr ⟨hhere, .inr ⟨before, p, after, hcandidates, hbefore, hp⟩⟩
          · -- sorting and noting do not fail
            exact absurd h nofun
    · rintro (⟨he, -⟩ | ⟨-, h | ⟨before, p, after, hcandidates, hbefore, hp⟩⟩)
      · exact absurd he hhere
      · exact .inr ⟨_, htext, Attempt.outcome_bind_eq_error_iff.mpr (.inl h)⟩
      · exact .inr ⟨_, htext, Attempt.outcome_bind_eq_error_iff.mpr (.inr ⟨_, hcandidates,
          Attempt.outcome_bind_eq_error_iff.mpr (.inl (hmapM.mpr ⟨_, p, _, rfl, hbefore, hp⟩))⟩)⟩

/-- **A search passes on exactly this.** -/
theorem files_passesOn_iff (hroot : root.IsRelative) :
    (s.files host root).outcome = .error f ∧ f.isDiscovery = false ↔
      root ≠ Path.here ∧ s.PassesOn host root f := by
  rw [files_eq_error_iff]
  constructor
  · rintro ⟨⟨-, rfl⟩ | ⟨hhere, h⟩, hf⟩
    · cases hf
    · refine ⟨hhere, ?_⟩
      cases hlister : s.lister with
      | some lister =>
        rcases h with h | ⟨before, p, after, hcandidates, hbefore, h⟩
        · have h := (candidates_eq_error_iff_of_lister hlister).mp h
          cases lister with
          | program name => exact .asking hlister (askProgram_passesOn_iff.mp ⟨h, hf⟩)
          | given names => cases h
        · obtain ⟨hp, r, hr, rfl⟩ := keep_eq_error_iff.mp h
          exact .named hlister hcandidates hbefore hp hr
      | none =>
        rcases h with h | ⟨before, p, after, hcandidates, -, h⟩
        · rw [outcome_candidates_of_walk hlister] at h
          rcases walkRoot_eq_error_iff.mp h with ⟨r, hr, rfl⟩ | ⟨k, -, -, rfl⟩ | ⟨names, hfirst⟩
          · exact .root hlister hr
          · cases hf
          · obtain ⟨directory, rfl⟩ | ⟨r, p, rfl⟩ := hfirst.trouble.failure_cases
            · cases hf
            · exact .below hlister hfirst
        · -- a walk finds what can be asked about, so it is kept or not
          obtain ⟨-, r, hr, -⟩ := keep_eq_error_iff.mp h
          rw [outcome_candidates_of_walk hlister] at hcandidates
          have hkind := kind?_of_mem_walkRoot hroot.slashes hcandidates
            (List.mem_append_right _ List.mem_cons_self)
          cases hkind.symm.trans hr
  · rintro ⟨hhere, h⟩
    cases h with
    | asking hlister h =>
      obtain ⟨h, hf⟩ := askProgram_passesOn_iff.mpr h
      exact ⟨.inr ⟨hhere, .inl ((candidates_eq_error_iff_of_lister hlister).mpr h)⟩, hf⟩
    | named hlister hcandidates hbefore hp h =>
      exact ⟨.inr ⟨hhere, .inr ⟨_, _, _, hcandidates, hbefore,
        keep_eq_error_iff.mpr ⟨hp, _, h, rfl⟩⟩⟩, rfl⟩
    | root hlister h =>
      refine ⟨.inr ⟨hhere, .inl ?_⟩, rfl⟩
      rw [outcome_candidates_of_walk hlister]
      exact walkRoot_eq_error_iff.mpr (.inl ⟨_, h, rfl⟩)
    | below hlister h =>
      refine ⟨.inr ⟨hhere, .inl ?_⟩, rfl⟩
      rw [outcome_candidates_of_walk hlister]
      exact walkRoot_eq_error_iff.mpr (.inr (.inr ⟨_, h⟩))

end Search

end StyleLinter.Discovery
