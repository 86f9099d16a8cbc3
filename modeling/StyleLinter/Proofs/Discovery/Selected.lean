import StyleLinter.Proofs.Discovery.Walked
import StyleLinter.Proofs.Text.Newlines

/-!
# The candidates that are kept

**The files of a root are its candidates in order**, without the aggregator of the root and without
those that are not there (`files_eq_ok_iff`). On a host that has gained files the candidates of a
lister are the same and those of a walk are more, and in either case the files that were there
before are the same as before (`files_of_gains`).
-/

namespace StyleLinter.Discovery

open Files

variable {host host' : Host}

/-- Does the lister name files by relative paths? -/
def Lister.IsRelative (lister : Lister) (host : Host) : Prop :=
  ∀ base root extension names, (lister.names host base root extension).outcome = .ok names →
    ∀ name ∈ names, name.head? ≠ some '/'

namespace Search

variable {s : Search} {root p : Path} {files : List Path}

/-! ### Keeping candidates -/

/-- Is there something at a path? -/
def isThere (s : Search) (host : Host) (p : Path) : Bool :=
  (host.disk.exists? (s.base / p)).toOption.getD false

theorem isThere_iff : s.isThere host p = true ↔ host.disk.exists? (s.base / p) = .ok true := by
  unfold isThere
  cases host.disk.exists? (s.base / p) with
  | error o => exact ⟨nofun, nofun⟩
  | ok b => exact ⟨congrArg _, Except.ok.inj⟩

/-- Is a candidate kept? -/
def keeps (s : Search) (host : Host) (root p : Path) : Bool :=
  p.toText != aggregatorText root s.extension && s.isThere host p

/-- Can it be decided whether a candidate is kept? -/
def Decides (s : Search) (host : Host) (root p : Path) : Prop :=
  p.toText = aggregatorText root s.extension ∨ ∃ b, host.disk.exists? (s.base / p) = .ok b

theorem keep_eq_ok_iff {kept : List Path} : (s.keep host root p).outcome = .ok kept ↔
    s.Decides host root p ∧ kept = if s.keeps host root p then [p] else [] := by
  unfold keep Decides keeps isThere
  by_cases hp : p.toText = aggregatorText root s.extension
  · have hne : (p.toText != aggregatorText root s.extension) = false := by rw [hp, bne_self_eq_false]
    rw [if_pos hp, hne, Bool.false_and, if_neg Bool.false_ne_true]
    exact ⟨fun h ↦ ⟨.inl hp, (Except.ok.inj h).symm⟩, fun h ↦ congrArg Except.ok h.2.symm⟩
  · have hne : (p.toText != aggregatorText root s.extension) = true := bne_iff_ne.mpr hp
    rw [if_neg hp, hne, Bool.true_and]
    cases host.disk.exists? (s.base / p) with
    | error o => exact ⟨nofun, fun h ↦ absurd (h.1.resolve_left hp) nofun⟩
    | ok b =>
      cases b with
      | false =>
        exact ⟨fun h ↦ ⟨.inr ⟨_, rfl⟩, (Except.ok.inj h).symm⟩, fun h ↦ congrArg Except.ok h.2.symm⟩
      | true =>
        exact ⟨fun h ↦ ⟨.inr ⟨_, rfl⟩, (Except.ok.inj h).symm⟩, fun h ↦ congrArg Except.ok h.2.symm⟩

/-- **The candidates that are kept are a part of them.** -/
theorem flatten_of_mapM_keep {candidates : List Path} {kept : List (List Path)}
    (h : candidates.mapM (fun p ↦ (s.keep host root p).outcome) = .ok kept) :
    kept.flatten = candidates.filter (s.keeps host root) := by
  have hall := mapM_eq_ok_iff.mp h
  clear h
  induction hall with
  | nil => rfl
  | @cons p ps _ _ hp _ ih =>
    obtain ⟨-, rfl⟩ := keep_eq_ok_iff.mp hp
    rw [List.flatten_cons, ih, List.filter_cons]
    split <;> rfl

/-- **The files of a root are the candidates that are kept, in order.** -/
theorem files_eq_ok_iff : (s.files host root).outcome = .ok files ↔
    root ≠ Path.here ∧ ∃ candidates, (s.candidates host root).outcome = .ok candidates ∧
      (∀ p ∈ candidates, s.Decides host root p) ∧
      files = (candidates.filter (s.keeps host root)).mergeSort
        fun p q ↦ Text.le p.toText q.toText := by
  constructor
  · intro h
    obtain ⟨hroot, candidates, kept, hcandidates, hkept, rfl⟩ := steps_of_files h
    refine ⟨hroot, candidates, hcandidates, fun p hp ↦ ?_, flatten_of_mapM_keep hkept ▸ rfl⟩
    obtain ⟨_, -, hkeep⟩ := exists_mem_of_mapM hkept hp
    exact (keep_eq_ok_iff.mp hkeep).1
  · rintro ⟨hroot, candidates, hcandidates, hdecides, rfl⟩
    obtain ⟨kept, hkept⟩ := exists_mapM (f := fun p ↦ (s.keep host root p).outcome)
      fun p hp ↦ ⟨_, keep_eq_ok_iff.mpr ⟨hdecides p hp, rfl⟩⟩
    have htext : rootText root = .ok root.toText := if_neg hroot
    refine Attempt.outcome_bind_eq_ok_iff.mpr ⟨_, htext, ?_⟩
    refine Attempt.outcome_bind_eq_ok_iff.mpr ⟨candidates, hcandidates, ?_⟩
    refine Attempt.outcome_bind_eq_ok_iff.mpr ⟨kept, (Attempt.outcome_mapM _ _).trans hkept, ?_⟩
    rw [flatten_of_mapM_keep hkept]
    rfl

theorem mem_files_iff (h : (s.files host root).outcome = .ok files) {candidates : List Path}
    (hcandidates : (s.candidates host root).outcome = .ok candidates) :
    p ∈ files ↔ p ∈ candidates ∧ p.toText ≠ aggregatorText root s.extension ∧
      host.disk.exists? (s.base / p) = .ok true := by
  obtain ⟨-, _, hcandidates', -, rfl⟩ := files_eq_ok_iff.mp h
  obtain rfl := Except.ok.inj (hcandidates.symm.trans hcandidates')
  rw [List.mem_mergeSort, List.mem_filter, keeps, Bool.and_eq_true, bne_iff_ne, isThere_iff]

/-! ### Candidates on a host that has gained files -/

theorem enterDirectory_of_grown (hg : host.disk.Grown host'.disk) {command : List Text} {dir : Path}
    (h : enterDirectory host command dir = .ok ()) : enterDirectory host' command dir = .ok () := by
  unfold enterDirectory at h ⊢
  cases hs : host.disk.spot dir with
  | error o =>
    rw [hs] at h
    cases o with
    | nul => cases h
    | refused r => cases r <;> cases h
  | ok spot =>
    rw [hs] at h
    rw [hg.spot hs]
    dsimp only at h ⊢
    split at h
    · cases h
    · next hp => rw [Tree.passage_of_within hg.tree.within hp]

theorem findProgram_of_grown (hgit : host'.git = host.git) {command : List Text} {dir : Path}
    {p : Program} (h : findProgram host command dir = .ok p) :
    findProgram host' command dir = .ok p := by
  unfold findProgram at h ⊢
  dsimp only at h ⊢
  split at h
  · split at h <;> exact absurd h nofun
  · next hslash =>
    rw [if_neg hslash, hgit]
    exact h

/-- **What asking the program comes to**: the command must be one that can be passed on, then the
directory is entered, the program is looked for, and what it prints is read. -/
theorem outcome_askProgram (program : Text) (dir : Path) (rootText extension : Text) :
    (askProgram host program dir rootText extension).outcome =
      if (listingCommand program rootText extension).any (·.contains '\x00') then
        .error (.invalid .nulInPath)
      else enterDirectory host (listingCommand program rootText extension) dir >>= fun _ ↦
        findProgram host (listingCommand program rootText extension) dir >>=
          answeredNames (listingCommand program rootText extension) dir := by
  unfold askProgram
  dsimp only
  rw [Attempt.outcome_bind]
  split
  · rfl
  · simp only [Attempt.outcome_bind]
    rfl

/-- **The program is asked** if the command can be passed on, the directory can be entered and the
program is found. -/
theorem askProgram_eq_ok_iff {program : Text} {dir : Path} {rootText extension : Text}
    {names : List Text} : (askProgram host program dir rootText extension).outcome = .ok names ↔
      (listingCommand program rootText extension).any (·.contains '\x00') = false ∧
      enterDirectory host (listingCommand program rootText extension) dir = .ok () ∧
      ∃ p, findProgram host (listingCommand program rootText extension) dir = .ok p ∧
        answeredNames (listingCommand program rootText extension) dir p = .ok names := by
  rw [outcome_askProgram]
  split
  · next hnul =>
    rw [hnul]
    exact ⟨nofun, fun h ↦ absurd h.1 nofun⟩
  · next hnul =>
    rw [bind_eq_ok_iff]
    simp only [bind_eq_ok_iff, Bool.eq_false_iff.mpr hnul, true_and]
    exact ⟨fun ⟨_, h⟩ ↦ h, fun h ↦ ⟨(), h⟩⟩

/-- What a program answers has no carriage return. -/
theorem not_mem_of_askProgram {program : Text} {dir : Path} {rootText extension : Text}
    {names : List Text}
    (h : (askProgram host program dir rootText extension).outcome = .ok names) :
    ∀ name ∈ names, '\r' ∉ name := by
  obtain ⟨-, -, p, -, hanswer⟩ := askProgram_eq_ok_iff.mp h
  obtain ⟨output, houtput, hanswer⟩ := bind_eq_ok_iff.mp hanswer
  have hunified : '\r' ∉ output := by
    unfold printedText at houtput
    split at houtput
    · exact Except.ok.inj houtput ▸ Text.not_mem_unifyNewlines _
    · exact absurd houtput nofun
  dsimp only at hanswer
  split at hanswer
  · obtain ⟨-, -, hanswer⟩ := bind_eq_ok_iff.mp hanswer
    obtain rfl := Except.ok.inj hanswer
    exact fun name hname hmem ↦
      hunified (Text.mem_of_mem_pieces (List.mem_filter.mp hname).1 hmem)
  · obtain ⟨errors, -, hanswer⟩ := bind_eq_ok_iff.mp hanswer
    exact absurd hanswer nofun

/-- **A lister gives the same names.** -/
theorem names_of_grown (hg : host.disk.Grown host'.disk) (hgit : host'.git = host.git)
    {lister : Lister} {dir : Path} {rootText extension : Text} {names : List Text}
    (h : (lister.names host dir rootText extension).outcome = .ok names) :
    (lister.names host' dir rootText extension).outcome = .ok names := by
  cases lister with
  | given => exact h
  | program name =>
    obtain ⟨hnul, henter, p, hfind, hanswer⟩ := askProgram_eq_ok_iff.mp h
    exact askProgram_eq_ok_iff.mpr
      ⟨hnul, enterDirectory_of_grown hg henter, p, findProgram_of_grown hgit hfind, hanswer⟩

theorem Decides.of_grown (hg : host.disk.Grown host'.disk) (h : s.Decides host root p) :
    s.Decides host' root p := by
  refine h.imp_right fun ⟨b, hb⟩ ↦ ?_
  rcases hg.exists? (s.base / p) with hsame | ⟨-, htrue, -⟩
  · exact ⟨b, hsame.trans hb⟩
  · exact ⟨true, htrue⟩

theorem isThere_of_grown (hg : host.disk.Grown host'.disk) (h : s.isThere host p = true) :
    s.isThere host' p = true := by
  rw [isThere_iff] at h ⊢
  rcases hg.exists? (s.base / p) with hsame | ⟨hfalse, -⟩
  · exact hsame.trans h
  · exact absurd (hfalse.symm.trans h) nofun

/-- **The candidates that were there before are the same as before.** -/
theorem candidates_of_gains (hg : Gains s.base host host') (ht : host'.disk.tree.Linkless)
    (hroot : root.LeadsDown) {candidates : List Path}
    (h : (s.candidates host root).outcome = .ok candidates)
    (hdecides : ∀ p ∈ candidates, s.Decides host root p) :
    ∃ candidates', (s.candidates host' root).outcome = .ok candidates' ∧
      (∀ p ∈ candidates', s.Decides host' root p) ∧
      (candidates.filter (s.isThere host)).Perm (candidates'.filter (s.isThere host)) := by
  cases hlister : s.lister with
  | some lister =>
    obtain ⟨names, hnames, rfl⟩ := (candidates_eq_ok_iff_of_lister hlister).mp h
    refine ⟨_, ?_, fun p hp ↦ (hdecides p hp).of_grown hg.disk, .refl _⟩
    exact (candidates_eq_ok_iff_of_lister hlister).mpr
      ⟨names, names_of_grown hg.disk hg.git hnames, rfl⟩
  | none =>
    have hwalk := (outcome_candidates_of_walk hlister).symm.trans h
    obtain ⟨candidates', hwalk'⟩ := exists_walkRoot_of_gains hg ht hroot hwalk
    refine ⟨candidates', (outcome_candidates_of_walk hlister).trans hwalk', fun p hp ↦ ?_, ?_⟩
    · exact .inr ⟨true, exists?_of_mem_walkRoot hroot.slashes hwalk' hp⟩
    · have hnodup := (nodup_walkRoot hwalk).sublist (List.filter_sublist (p := s.isThere host))
      have hnodup' := (nodup_walkRoot hwalk').sublist (List.filter_sublist (p := s.isThere host))
      refine (List.perm_ext_iff_of_nodup hnodup hnodup').mpr fun p ↦ ?_
      rw [List.mem_filter, List.mem_filter, mem_walkRoot_of_grown hg.disk hroot.slashes hwalk hwalk',
        isThere_iff, and_assoc, and_self]

/-- **The files of a root that were there before are the same as before.** -/
theorem files_of_gains (hg : Gains s.base host host') (ht : host'.disk.tree.Linkless)
    (hroot : root.LeadsDown) (h : (s.files host root).outcome = .ok files) :
    ∃ files', (s.files host' root).outcome = .ok files' ∧
      files.Perm (files'.filter (s.isThere host)) := by
  obtain ⟨hne, candidates, hcandidates, hdecides, rfl⟩ := files_eq_ok_iff.mp h
  obtain ⟨candidates', hcandidates', hdecides', hperm⟩ :=
    candidates_of_gains hg ht hroot hcandidates hdecides
  refine ⟨_, files_eq_ok_iff.mpr ⟨hne, candidates', hcandidates', hdecides', rfl⟩, ?_⟩
  have hkeeps : candidates.filter (s.keeps host root) =
      (candidates.filter (s.isThere host)).filter
        (·.toText != aggregatorText root s.extension) := by
    rw [List.filter_filter]
    rfl
  have hkeeps' : (candidates'.filter (s.keeps host' root)).filter (s.isThere host) =
      (candidates'.filter (s.isThere host)).filter
        (·.toText != aggregatorText root s.extension) := by
    rw [List.filter_filter, List.filter_filter]
    refine List.filter_congr fun p _ ↦ ?_
    -- what was there still is
    cases hthere : s.isThere host p with
    | false => rw [Bool.false_and, Bool.and_false]
    | true =>
      rw [keeps, isThere_of_grown hg.disk hthere, Bool.true_and, Bool.and_true]
  have hkept : (candidates.filter (s.keeps host root)).Perm
      ((candidates'.filter (s.keeps host' root)).filter (s.isThere host)) := by
    rw [hkeeps, hkeeps']
    exact hperm.filter _
  exact ((List.mergeSort_perm _ _).trans hkept).trans ((List.mergeSort_perm _ _).filter _).symm

/-- **Where a file comes from.** A walk has found it below the root, or a lister has named it. -/
theorem origin_of_mem_files (h : (s.files host root).outcome = .ok files) (hp : p ∈ files) :
    IsBelow p root ∨ ∃ lister, s.lister = some lister ∧ ∃ names,
      (lister.names host s.base root s.extension).outcome = .ok names ∧
        ∃ name ∈ names, p = Path.ofText name := by
  obtain ⟨candidates, hcandidates, hmem⟩ := mem_candidates_of_mem_files h
  cases hlister : s.lister with
  | none => exact .inl (isBelow_of_mem_files hlister h hp)
  | some lister =>
    obtain ⟨names, hnames, rfl⟩ := (candidates_eq_ok_iff_of_lister hlister).mp hcandidates
    obtain ⟨name, hname, rfl⟩ := List.mem_map.mp (hmem p hp)
    exact .inr ⟨lister, rfl, names, hnames, name, (List.mem_filter.mp hname).1, rfl⟩

theorem isNormal_of_mem_files (hroot : root.IsNormal) (h : (s.files host root).outcome = .ok files)
    (hp : p ∈ files) : p.IsNormal := by
  rcases origin_of_mem_files h hp with hbelow | ⟨lister, -, names, -, name, -, rfl⟩
  · exact hbelow.isNormal hroot
  · exact Path.isNormal_ofText name

/-- **The files of a relative root have relative paths**, if a lister that names them keeps to such
paths. -/
theorem isRelative_of_mem_files (hroot : root.IsRelative)
    (hlister : ∀ lister, s.lister = some lister → lister.IsRelative host)
    (h : (s.files host root).outcome = .ok files) (hp : p ∈ files) : p.IsRelative := by
  rcases origin_of_mem_files h hp with hbelow | ⟨lister, hsome, names, hnames, name, hname, rfl⟩
  · exact ⟨hbelow.isNormal hroot.isNormal, hbelow.1.trans hroot.slashes⟩
  · exact Path.isRelative_ofText (hlister lister hsome _ _ _ names hnames name hname)

/-- **A walk finds no file twice.** -/
theorem nodup_of_files (hlister : s.lister = none) (h : (s.files host root).outcome = .ok files) :
    files.Nodup := by
  obtain ⟨-, candidates, hcandidates, -, rfl⟩ := files_eq_ok_iff.mp h
  rw [outcome_candidates_of_walk hlister] at hcandidates
  exact (List.mergeSort_perm _ _).nodup_iff.mpr ((nodup_walkRoot hcandidates).filter _)

/-- Files of roots that are the same are in the same order. -/
theorem eq_of_perm_of_files (hroot : root.IsNormal) {s' : Search} {files' : List Path}
    (h : (s.files host root).outcome = .ok files) (h' : (s'.files host' root).outcome = .ok files')
    (hperm : files.Perm files') : files = files' :=
  eq_of_perm_of_ordered (fun _ hp ↦ isNormal_of_mem_files hroot h hp) (ordered_of_files h)
    (ordered_of_files h') hperm

/-- **The modules of a root are named after its files.** -/
theorem modules_eq_ok_iff {modules : List Text} : (s.modules host root).outcome = .ok modules ↔
    ∃ files, (s.files host root).outcome = .ok files ∧
      files.mapM (ModuleName.ofPath · s.extension) = .ok modules := by
  unfold Search.modules
  rw [Attempt.outcome_bind_eq_ok_iff]
  exact exists_congr fun files ↦ and_congr_right fun _ ↦ mapError_eq_ok_iff

end Search

end StyleLinter.Discovery
