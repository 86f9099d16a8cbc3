import Mathlib
import StyleLinter.Build.Load
import StyleLinter.Proofs.ExceptionList.Faults
import StyleLinter.Proofs.Files.Additions
import StyleLinter.Proofs.Registry.Answers

/-!
# Loading a configuration

A run is configured by the build file of its workspace and by an exception list. Most of what can be
wrong with them is reported as a failure to load or, for a line of the list, as a failure on this
line. The rest is passed on as it comes, and this module says **exactly what the rest is**
(`load_passesOn_iff`, `ofFile_passesOn_iff`).

For a build file it is the question what a path leads to, when it is refused, and two faults of a
file in sections: bytes that are no text, and a numeral that is too long. A file made of
declarations adds nothing to this. For a list it is any refusal but the two that are expected, such
as that the path leads to a directory, and a path that cannot be asked about.
-/

namespace StyleLinter

variable {host : Host} {path workspace : Path} {f : Failure}

/-! ### Build files in sections -/

namespace Build

theorem ne_nil_of_textUnder? {name t : Text} {table : Toml.Table}
    (h : textUnder? name table = some t) : t ≠ [] := by
  unfold textUnder? at h
  split at h
  · next s _ =>
    rw [Option.ite_none_left_eq_some] at h
    obtain ⟨hs, he⟩ := h
    obtain rfl := Option.some.inj he
    simpa using hs
  · exact absurd h nofun

theorem ne_nil_of_libraryNames {table : Toml.Table} {libraries : List Text}
    (h : libraryNames table = .ok libraries) : ∀ l ∈ libraries, l ≠ [] := by
  -- whatever holds the libraries, the name of each is the text under a name
  have hnames : ∀ {α : Type} {name? : α → Option Text} {items : List α},
      (∀ item l, name? item = some l → l ≠ []) → ∀ {ls}, items.mapM name? = some ls →
      ∀ l ∈ ls, l ≠ [] := by
    intro α name? items hne ls hls l hl
    obtain ⟨item, -, hitem⟩ := exists_of_mem_right (mapM_eq_some_iff.mp hls) hl
    exact hne item l hitem
  have hitem : ∀ item l, libraryName? item = some l → l ≠ [] := by
    intro item l hl
    unfold libraryName? at hl
    split at hl
    · exact ne_nil_of_textUnder? hl
    · exact absurd hl nofun
  simp only [libraryNames] at h
  split at h
  · obtain rfl := Except.ok.inj h
    exact fun l hl ↦ absurd hl List.not_mem_nil
  · split at h
    · next hls =>
      obtain rfl := Except.ok.inj h
      exact hnames hitem hls
    · exact absurd h nofun
  · split at h
    · next hls =>
      obtain rfl := Except.ok.inj h
      exact hnames (fun _ _ ↦ ne_nil_of_textUnder?) hls
    · exact absurd h nofun
  · exact absurd h nofun

theorem ofParts_eq_ok_iff {name : Text} {ls : List Text} {p : Package} :
    Package.ofParts name ls = .ok p ↔ p.name = name ∧ p.libraries = ls := by
  unfold Package.ofParts
  constructor
  · intro h
    split at h
    · exact absurd h nofun
    · split at h
      · obtain rfl := Except.ok.inj h
        exact ⟨rfl, rfl⟩
      · exact absurd h nofun
  · rintro ⟨rfl, rfl⟩
    rw [dif_neg p.name_ne_nil, dif_pos p.libraries_ne_nil]

/-- **A package is made of the names that a file in sections has.** -/
theorem exists_ofParts_of_namesIn {table : Toml.Table} {name : Text} {libraries : List Text}
    (h : namesIn table = .ok (name, libraries)) : ∃ p, Package.ofParts name libraries = .ok p := by
  unfold namesIn at h
  split at h
  · exact absurd h nofun
  · next name' hname =>
    obtain ⟨libraries', hlibraries, he⟩ := map_eq_ok_iff.mp h
    obtain ⟨rfl, rfl⟩ := Prod.mk.inj he
    rw [Package.ofParts, dif_neg (ne_nil_of_textUnder? hname),
      dif_pos (ne_nil_of_libraryNames hlibraries)]
    exact ⟨_, rfl⟩

/-- A package is made of the names that declarations have. -/
theorem exists_ofParts_of_package? {t name : Text} (h : Declarations.package? t = some name) :
    ∃ p, Package.ofParts name (Declarations.libraries t) = .ok p := by
  obtain ⟨⟨name', rest⟩, hfirst, rfl⟩ := Option.map_eq_some_iff.mp h
  obtain ⟨start, -, hname⟩ := List.exists_of_findSome?_eq_some hfirst
  have hne : name' ≠ [] := Declarations.ne_nil_of_declared? hname
  have hlibraries : ∀ l ∈ Declarations.libraries t, l ≠ [] := fun _ ↦
    Declarations.ne_nil_of_mem_librariesAt
  rw [Package.ofParts, dif_neg hne, dif_pos hlibraries]
  exact ⟨_, rfl⟩

/-! ### Build files -/

/-- **What is passed on when a build file is loaded.** Either the question what a path leads to is
refused, or the file is one in sections that is no text or has a numeral that is too long. -/
inductive PassesOn (host : Host) (workspace : Path) : Failure → Prop
  /-- Whether there is a file in sections cannot be found out. -/
  | sectionsRefused {r : Files.Refusal}
      (h : host.disk.kind? (workspace.child sectionsName) = .error (.refused r)) :
      PassesOn host workspace (.refused r (workspace.child sectionsName))
  /-- There is no file in sections; whether there is one made of declarations cannot be found
  out. -/
  | declarationsRefused {k : Option Files.Kind} {r : Files.Refusal}
      (hsections : host.disk.kind? (workspace.child sectionsName) = .ok k) (hk : k ≠ some .file)
      (h : host.disk.kind? (workspace.child declarationsName) = .error (.refused r)) :
      PassesOn host workspace (.refused r (workspace.child declarationsName))
  /-- The file in sections is no text. -/
  | notText {bytes : Bytes} {fault : Utf8.Fault}
      (hread : host.disk.read (workspace.child sectionsName) = .ok bytes)
      (h : Utf8.decode bytes = .error fault) : PassesOn host workspace (.notText fault)
  /-- The file in sections has a numeral that is too long. -/
  | numeral {bytes : Bytes} {t : Text} {n : Nat}
      (hread : host.disk.read (workspace.child sectionsName) = .ok bytes)
      (htext : Utf8.decode bytes = .ok t) (h : Toml.parse t = .error (.numeralTooLong n)) :
      PassesOn host workspace (.invalid (.numeralTooLong n))

theorem isFile_eq_ok_iff {b : Bool} : isFile host path = .ok b ↔
    ∃ k, host.disk.kind? path = .ok k ∧ (k == some .file) = b := by
  rw [isFile, mapError_eq_ok_iff, Files.Disk.isFile?, map_eq_ok_iff]

theorem isFile_eq_error_iff : isFile host path = .error f ↔
    ∃ r, host.disk.kind? path = .error (.refused r) ∧ f = .refused r path := by
  rw [isFile, mapError_eq_error_iff]
  constructor
  · rintro ⟨o, ho, rfl⟩
    rw [Files.Disk.isFile?, map_eq_error_iff] at ho
    obtain ⟨r, rfl⟩ := Files.Disk.exists_refusal_of_kind? ho
    exact ⟨r, ho, rfl⟩
  · rintro ⟨r, hr, rfl⟩
    exact ⟨.refused r, map_eq_error_iff.mpr hr, rfl⟩

/-- A file that can be read is a file. -/
theorem isFile_of_read {bytes : Bytes} (h : host.disk.read path = .ok bytes) :
    isFile host path = .ok true := by
  obtain ⟨s, rights, hs, hn, -⟩ := Files.Disk.read_eq_ok_iff.mp h
  refine isFile_eq_ok_iff.mpr ⟨some .file, ?_, rfl⟩
  rw [Files.Disk.kind?_of_spot hs, Files.Disk.kindAt, hn]

/-- A path that leads to a file has no NUL character. -/
theorem read_ne_nul_of_isFile (h : isFile host path = .ok true) :
    host.disk.read path ≠ .error .nul := by
  obtain ⟨k, hk, hfile⟩ := isFile_eq_ok_iff.mp h
  obtain rfl := beq_iff_eq.mp hfile
  obtain ⟨s, hs, -⟩ := Files.Disk.spot_of_kind? hk
  rw [ne_eq, Files.Disk.read_eq_nul_iff, hs]
  nofun

/-- **What a file in sections is not reported for**: bytes that are no text, and long numerals. -/
theorem loadSections_passesOn_iff (hfile : isFile host path = .ok true) :
    (loadSections host path).outcome = .error f ∧ f.isLoad = false ↔
      ∃ bytes, host.disk.read path = .ok bytes ∧
        ((∃ fault, Utf8.decode bytes = .error fault ∧ f = .notText fault) ∨
          ∃ t n, Utf8.decode bytes = .ok t ∧ Toml.parse t = .error (.numeralTooLong n) ∧
            f = .invalid (.numeralTooLong n)) := by
  constructor
  · rintro ⟨h, hload⟩
    rcases Attempt.outcome_bind_eq_error_iff.mp h with h | ⟨table, -, h⟩
    · have h : readSections host path = .error f := h
      unfold readSections at h
      split at h
      · obtain rfl := Except.error.inj h
        exact absurd hload nofun
      · next hnul => exact absurd hnul (read_ne_nul_of_isFile hfile)
      · next bytes hbytes =>
        refine ⟨bytes, hbytes, ?_⟩
        split at h
        · next fault hfault => exact .inl ⟨fault, hfault, (Except.error.inj h).symm⟩
        · next t ht =>
          split at h
          · obtain rfl := Except.error.inj h
            exact absurd hload nofun
          · next n hn => exact .inr ⟨t, n, ht, hn, (Except.error.inj h).symm⟩
          · exact absurd h nofun
    · rcases Attempt.outcome_bind_eq_error_iff.mp h with h | ⟨⟨name, libraries⟩, hnames, h⟩
      · obtain ⟨fault, -, rfl⟩ := mapError_eq_error_iff.mp h
        exact absurd hload nofun
      · obtain ⟨p, hp⟩ := exists_ofParts_of_namesIn (mapError_eq_ok_iff.mp hnames)
        rcases Attempt.outcome_bind_eq_error_iff.mp h with h | ⟨-, -, h⟩
        · exact absurd h nofun
        · have h : (Package.ofParts name libraries).mapError .invalid = .error f := h
          rw [hp] at h
          exact absurd h nofun
  · rintro ⟨bytes, hbytes, ⟨fault, hfault, rfl⟩ | ⟨t, n, ht, hn, rfl⟩⟩
    · refine ⟨Attempt.outcome_bind_eq_error_iff.mpr (.inl ?_), rfl⟩
      show readSections host path = _
      simp only [readSections, hbytes, hfault]
    · refine ⟨Attempt.outcome_bind_eq_error_iff.mpr (.inl ?_), rfl⟩
      show readSections host path = _
      simp only [readSections, hbytes, ht, hn]

/-- A file made of declarations is reported for whatever is wrong with it. -/
theorem isLoad_of_loadDeclarations (hfile : isFile host path = .ok true)
    (h : (loadDeclarations host path).outcome = .error f) : f.isLoad = true := by
  rcases Attempt.outcome_bind_eq_error_iff.mp h with h | ⟨t, -, h⟩
  · have h : readDeclarations host path = .error f := h
    have hread := read_ne_nul_of_isFile hfile
    unfold readDeclarations Host.readText at h
    cases hbytes : host.disk.read path with
    | error o =>
      cases o with
      | refused r =>
        simp only [hbytes, Failure.ofObstacle] at h
        exact Except.error.inj h ▸ rfl
      | nul => exact absurd hbytes hread
    | ok bytes =>
      cases htext : Utf8.decode bytes with
      | error fault =>
        simp only [hbytes, htext] at h
        exact Except.error.inj h ▸ rfl
      | ok t =>
        simp only [hbytes, htext] at h
        exact absurd h nofun
  · split at h
    · exact Except.error.inj h ▸ rfl
    · next name hname =>
      obtain ⟨p, hp⟩ := exists_ofParts_of_package? hname
      rcases Attempt.outcome_bind_eq_error_iff.mp h with h | ⟨-, -, h⟩
      · exact absurd h nofun
      · have h : (Package.ofParts name (Declarations.libraries t)).mapError .invalid = .error f := h
        rw [hp] at h
        exact absurd h nofun

/-- **Loading a build file passes on exactly this.** -/
theorem load_passesOn_iff : (load host workspace).outcome = .error f ∧ f.isLoad = false ↔
    PassesOn host workspace f := by
  constructor
  · rintro ⟨h, hload⟩
    rcases Attempt.outcome_bind_eq_error_iff.mp h with h | ⟨b, hsections, h⟩
    · obtain ⟨r, hr, rfl⟩ := isFile_eq_error_iff.mp h
      exact .sectionsRefused hr
    · cases b with
      | true =>
        obtain ⟨bytes, hbytes, ⟨fault, hfault, rfl⟩ | ⟨t, n, ht, hn, rfl⟩⟩ :=
          (loadSections_passesOn_iff hsections).mp ⟨h, hload⟩
        · exact .notText hbytes hfault
        · exact .numeral hbytes ht hn
      | false =>
        obtain ⟨k, hk, hno⟩ := isFile_eq_ok_iff.mp hsections
        rcases Attempt.outcome_bind_eq_error_iff.mp h with h | ⟨b, hdeclarations, h⟩
        · obtain ⟨r, hr, rfl⟩ := isFile_eq_error_iff.mp h
          exact .declarationsRefused hk (by simpa using hno) hr
        · cases b with
          | true => exact absurd (isLoad_of_loadDeclarations hdeclarations h) (by simp [hload])
          | false =>
            obtain rfl := Except.error.inj h
            exact absurd hload nofun
  · have hfile : ∀ {bytes}, host.disk.read (workspace.child sectionsName) = .ok bytes →
        (loadSections host (workspace.child sectionsName)).outcome = .error f ∧ f.isLoad = false →
        (load host workspace).outcome = .error f ∧ f.isLoad = false := fun hread h ↦
      ⟨Attempt.outcome_bind_eq_error_iff.mpr (.inr ⟨true, isFile_of_read hread, h.1⟩), h.2⟩
    intro h
    cases h with
    | sectionsRefused hr =>
      exact ⟨Attempt.outcome_bind_eq_error_iff.mpr (.inl (isFile_eq_error_iff.mpr ⟨_, hr, rfl⟩)), rfl⟩
    | declarationsRefused hk hno hr =>
      have hsections := isFile_eq_ok_iff.mpr ⟨_, hk, beq_false_of_ne hno⟩
      have hdeclarations := isFile_eq_error_iff.mpr ⟨_, hr, rfl⟩
      exact ⟨Attempt.outcome_bind_eq_error_iff.mpr (.inr ⟨false, hsections,
        Attempt.outcome_bind_eq_error_iff.mpr (.inl hdeclarations)⟩), rfl⟩
    | notText hread hfault =>
      exact hfile hread ((loadSections_passesOn_iff (isFile_of_read hread)).mpr
        ⟨_, hread, .inl ⟨_, hfault, rfl⟩⟩)
    | numeral hread ht hn =>
      exact hfile hread ((loadSections_passesOn_iff (isFile_of_read hread)).mpr
        ⟨_, hread, .inr ⟨_, _, ht, hn, rfl⟩⟩)

end Build

/-! ### Exception lists -/

namespace Registry

/-- **What is passed on when an exception list is loaded**: any refusal but the two that are
expected, and that the path cannot be asked about. -/
inductive PassesOn (host : Host) (path : Path) : Failure → Prop
  /-- Reading is refused, such as where the path leads to a directory. -/
  | refused {r : Files.Refusal} (h : host.disk.read path = .error (.refused r))
      (hfound : r ≠ .notFound) (hdenied : r ≠ .denied) : PassesOn host path (.refused r path)
  /-- The path has a NUL character. -/
  | nul (h : host.disk.read path = .error .nul) : PassesOn host path (.invalid .nulInPath)

/-- What is wrong with a text that was read is said of one of its lines. -/
theorem isRecord_of_ofText {text source : Text} (hsource : source ≠ [])
    (h : ofText text source = .error f) : f.isRecord = true := by
  have h := ofText_eq_error_iff.mp h
  rcases ExceptionList.parse_cases text hsource with ⟨rs, hrs, -⟩ | ⟨_, _, _, _, -, -, herror⟩
  · exact absurd (hrs.symm.trans h) nofun
  · exact Except.error.inj (herror.symm.trans h) ▸ rfl

/-- Reading the text of a list passes on exactly this. -/
theorem readList_passesOn_iff :
    readList host path = .error f ∧ f.isLoad = false ↔ PassesOn host path f := by
  unfold readList Host.readText
  constructor
  · rintro ⟨h, hload⟩
    cases hread : host.disk.read path with
    | error o =>
      simp only [hread] at h
      cases o with
      | refused r =>
        cases r with
        | notFound | denied =>
          obtain rfl := Except.error.inj h
          cases hload
        | alreadyExists | notDirectory | isDirectory | nameTooLong | tooManyLinks =>
          obtain rfl := Except.error.inj h
          exact .refused hread (by decide) (by decide)
      | nul =>
        obtain rfl := Except.error.inj h
        exact .nul hread
    | ok bytes =>
      cases htext : Utf8.decode bytes with
      | error fault =>
        simp only [hread, htext] at h
        obtain rfl := Except.error.inj h
        cases hload
      | ok t =>
        simp only [hread, htext] at h
        cases h
  · rintro (@⟨r, hread, hfound, hdenied⟩ | hread)
    · refine ⟨?_, rfl⟩
      simp only [hread, Failure.ofObstacle]
      cases r with
      | notFound => exact absurd rfl hfound
      | denied => exact absurd rfl hdenied
      | alreadyExists | notDirectory | isDirectory | nameTooLong | tooManyLinks => rfl
    · refine ⟨?_, rfl⟩
      simp only [hread, Failure.ofObstacle]

theorem ofFile_eq_error_iff : ofFile host path = .error f ↔ readList host path = .error f ∨
    ∃ text, readList host path = .ok text ∧ ofText text path = .error f := by
  unfold ofFile
  cases readList host path <;> simp

/-- **Loading an exception list passes on exactly this.** -/
theorem ofFile_passesOn_iff (hpath : path.IsNormal) :
    ofFile host path = .error f ∧ f.isLoad = false ∧ f.isRecord = false ↔ PassesOn host path f := by
  rw [ofFile_eq_error_iff]
  constructor
  · rintro ⟨h | ⟨text, -, h⟩, hload, hrecord⟩
    · exact readList_passesOn_iff.mp ⟨h, hload⟩
    · exact absurd (isRecord_of_ofText (Path.toText_ne_nil hpath) h) (by simp [hrecord])
  · intro h
    obtain ⟨hread, hload⟩ := readList_passesOn_iff.mpr h
    refine ⟨.inl hread, hload, ?_⟩
    cases h <;> rfl

end Registry

/-! ### All of it -/

/-- **What a configuration is not reported for.** Whatever the files, loading the build file of a
workspace fails as a failure to load or passes on what `Build.PassesOn` says; loading an exception
list fails as a failure to load, as a failure on one of its lines, or passes on what
`Registry.PassesOn` says. -/
theorem configuration_passesOn_iff (host : Host) (workspace : Path) {list : Path}
    (hlist : list.IsNormal) (f : Failure) :
    ((Build.load host workspace).outcome = .error f ∧ f.isLoad = false ↔
      Build.PassesOn host workspace f) ∧
    (Registry.ofFile host list = .error f ∧ f.isLoad = false ∧ f.isRecord = false ↔
      Registry.PassesOn host list f) :=
  ⟨Build.load_passesOn_iff, Registry.ofFile_passesOn_iff hlist⟩

/-- A workspace with a build file in sections that is no text, and a directory. -/
def garbledHost : Host where
  disk :=
    { tree := (Files.Tree.empty.put ["lakefile.toml"] (.file {} [0xff])).put ["d"] (.directory {})
      current := [] }
  git := none

/-- **The bytes of the build file are passed on, and so is that the list is a directory.** -/
theorem configuration_passesOn_iff_garbled :
    (Build.load garbledHost Path.here).outcome = .error (.notText ⟨0xff, 0, 1, .invalidStart⟩) ∧
      Registry.ofFile garbledHost ⟨0, ["d"]⟩ = .error (.refused .isDirectory ⟨0, ["d"]⟩) := by
  have hbytes : garbledHost.disk.read (Path.here.child Build.sectionsName) = .ok [0xff] := by cbv
  have hfault : Utf8.decode [0xff] = .error ⟨0xff, 0, 1, .invalidStart⟩ := by cbv
  have hlist : garbledHost.disk.read ⟨0, ["d"]⟩ = .error (.refused .isDirectory) := by cbv
  have hnormal : Path.IsNormal ⟨0, ["d"]⟩ := Path.isNormal_ofText "d"
  refine ⟨?_, ?_⟩
  · exact ((configuration_passesOn_iff _ _ hnormal _).1.mpr (.notText hbytes hfault)).1
  · exact ((configuration_passesOn_iff _ Path.here hnormal _).2.mpr (.refused hlist (by decide) (by decide))).1

end StyleLinter
