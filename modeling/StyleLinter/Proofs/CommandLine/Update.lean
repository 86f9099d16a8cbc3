import StyleLinter.Proofs.CommandLine.Steps
import StyleLinter.Proofs.Console.Markup
import StyleLinter.Proofs.Files.Making
import StyleLinter.Proofs.Registry.Loading

/-!
# Updates

What an update does, up to the bytes that it writes. A `Pass` has the values of the steps that lead
to a result, and an update writes its `records`: **the records that the run says nothing about, and
all that it found** (`exists_pass_of_update`). The records can be read back from the list, since the
old ones came from a list and the new ones are listable if their files are
(`Pass.isListable_of_mem_records`).

A second command sees the same files where the first one did not disturb them (`Undisturbed`), and
then **it finds the same**, whatever registry it works with (`mapM_inFile_of_undisturbed`).
-/

namespace StyleLinter.CommandLine

variable {s : Settings} {host host' : Host}

/-! ### Saving -/

/-- **Saving makes directories, and then it writes one file or fails.** -/
theorem save_cases (host : Host) (path : Path) (text : Except Invalid Text) :
    ∃ disk, host.disk.MakesWay disk path.parent ∧
      ((∃ f, save host path text = (host.withDisk disk, .error f)) ∨
        ∃ t disk', text = .ok t ∧ disk.write path (Utf8.encode t) = .ok disk' ∧
          save host path text = (host.withDisk disk', .ok ())) := by
  have hway := Files.Disk.makesWay_makeDirectories host.disk path.parent
  unfold save
  split
  · next disk o p hmake =>
    rw [hmake] at hway
    exact ⟨disk, hway, .inl ⟨_, rfl⟩⟩
  · next disk hmake =>
    rw [hmake] at hway
    refine ⟨disk, hway, ?_⟩
    split
    · exact .inl ⟨_, rfl⟩
    · next t =>
      split
      · exact .inl ⟨_, rfl⟩
      · next disk' hwrite => exact .inr ⟨t, disk', rfl, hwrite, rfl⟩

/-- **What is saved is there afterwards.** -/
theorem spec_of_save {path : Path} {text : Except Invalid Text}
    (h : save host path text = (host', .ok ())) :
    ∃ t, text = .ok t ∧ host'.disk.contents? path = some (Utf8.encode t) := by
  obtain ⟨disk, -, ⟨f, hsave⟩ | ⟨t, disk', htext, hwrite, hsave⟩⟩ := save_cases host path text
  · exact absurd (Prod.mk.inj (hsave.symm.trans h)).2 nofun
  · obtain ⟨rfl, -⟩ := Prod.mk.inj (hsave.symm.trans h)
    exact ⟨t, htext, Files.Disk.contents?_write hwrite⟩

/-- **What is there stays when the same is saved again**, in whatever way this ends. -/
theorem contents?_save {path : Path} {text : Except Invalid Text} {contents : Bytes}
    (hc : host.disk.contents? path = some contents)
    (htext : ∀ t, text = .ok t → Utf8.encode t = contents) :
    (save host path text).1.disk.contents? path = some contents := by
  obtain ⟨disk, hway, ⟨f, hsave⟩ | ⟨t, disk', ht, hwrite, hsave⟩⟩ := save_cases host path text
  · -- where saving stops early, only directories have been made
    rw [hsave]
    exact Files.Disk.contents?_of_kept hway.current hway.kept hc
  · rw [hsave, ← htext t ht]
    exact Files.Disk.contents?_write hwrite

/-- The message about a list has no brackets but those of its path. -/
theorem no_bracket_savedMessage {path : Path} (h : '[' ∉ path.toText) (found kept : Nat) :
    '[' ∉ savedMessage path found kept := by
  have hdigits : ∀ n, '[' ∉ Text.ofNat n := Text.not_mem_ofNat (by decide)
  unfold savedMessage
  simp only [List.mem_append, not_or]
  exact ⟨⟨⟨⟨⟨⟨by decide +kernel, hdigits found⟩, by decide +kernel⟩, h⟩, by decide +kernel⟩,
    hdigits kept⟩, by decide +kernel⟩

/-- The records that a list is made of when it is written anew. -/
def savedRecords (run : Lint) (roots : List Path) (r : Result) : List Record :=
  Lint.outOfScope run.config roots run.registry ++ r.all.map (·.toRecord)

/-- **A list that was saved holds its records**, and their numbers are announced. -/
theorem spec_of_saveList {run : Lint} {roots : List Path} {r : Result} {status : Nat}
    {out err : Text} (h : (saveList s host run roots r).2 = .ok (.exit status out err)) :
    (∀ q ∈ savedRecords run roots r, q.isWritable = true) ∧
      (saveList s host run roots r).1.disk.contents? s.list =
        some (Utf8.encode (ExceptionList.render (savedRecords run roots r))) ∧
      announcement (savedMessage s.list r.all.length
        (Lint.outOfScope run.config roots run.registry).length) = .ok err := by
  unfold saveList at h ⊢
  dsimp only at h ⊢
  split at h
  · exact absurd h nofun
  · next hs =>
    obtain ⟨text, htext, hcontents⟩ := spec_of_save hs
    obtain ⟨hwritable, rfl⟩ := ExceptionList.write_eq_ok_iff.mp htext
    obtain ⟨err', herr, he⟩ := map_eq_ok_iff.mp h
    obtain ⟨-, -, rfl⟩ := Ending.exit.inj he
    exact ⟨hwritable, hcontents, herr⟩

/-- A list that holds its records already stays as it is. -/
theorem contents?_saveList {run : Lint} {roots : List Path} {r : Result} {contents : Bytes}
    (hc : host.disk.contents? s.list = some contents)
    (hr : Utf8.encode (ExceptionList.render (savedRecords run roots r)) = contents) :
    (saveList s host run roots r).1.disk.contents? s.list = some contents := by
  have hsave : (save host s.list (ExceptionList.write (savedRecords run roots r))).1.disk.contents?
      s.list = some contents :=
    contents?_save hc fun t ht ↦ (ExceptionList.write_eq_ok_iff.mp ht).2 ▸ hr
  unfold saveList
  dsimp only
  split <;> next hs => exact (congrArg (·.1.disk.contents? s.list) hs).symm.trans hsave

/-! ### Passes over the files -/

/-- The values of the steps of a command that checks the source files of a host. -/
structure Pass (s : Settings) (host : Host) where
  /-- The configuration. -/
  config : Config
  /-- The registry that an update starts from. -/
  registry : Registry
  /-- The names of the roots. -/
  names : List Text
  /-- The files. -/
  paths : List Path
  /-- The findings, file by file. -/
  found : List (List Violation)
  config_eq : s.config = .ok config
  registry_eq : (Registry.ofFileIfThere host s.list false).outcome = .ok registry
  names_eq : (s.allRoots host).outcome = .ok names
  paths_eq : s.sources host = .ok paths
  found_eq : paths.mapM
    ((s.run config registry).inFile host (Check.Checker.active config)) = .ok found

namespace Pass

variable (p : Pass s host)

/-- The run of a pass. -/
def run : Lint := s.run p.config p.registry

/-- The roots of a pass. -/
def roots : List Path := p.names.map Path.ofText

/-- All that a pass finds. -/
def entries : List Violation := p.found.flatten

/-- The result of a pass. -/
def result : Result := p.run.split p.paths.length p.entries

/-- The records that a pass says nothing about. -/
def kept : List Record := Lint.outOfScope p.config p.roots p.registry

/-- The records that an update writes. -/
def records : List Record := savedRecords p.run p.roots p.result

theorem overRoots_eq (hupdate : s.update = true) :
    (overRoots s p.config host).outcome = .ok (p.run, p.roots, p.result) := by
  refine (overRoots_eq_ok_iff p.config_eq).mpr ⟨p.registry, p.names, p.paths, p.found, ?_,
    p.names_eq, p.paths_eq, rfl, rfl, p.found_eq, rfl⟩
  rw [hupdate, Bool.not_true, Bool.and_false]
  exact p.registry_eq

/-- **What a pass finds is what there is to report.** -/
theorem reported_eq : p.run.reported host p.paths = .ok p.entries :=
  Lint.reported_of_mapM_inFile p.found_eq

theorem all_perm : p.result.all.Perm p.entries := Lint.all_split_perm _ _ _

theorem mem_records_iff {r : Record} :
    r ∈ p.records ↔ r ∈ p.kept ∨ ∃ v ∈ p.entries, v.toRecord = r := by
  rw [records, savedRecords, List.mem_append, List.mem_map]
  refine or_congr_right (exists_congr fun v ↦ and_congr_left fun _ ↦ ?_)
  exact p.all_perm.mem_iff

theorem mem_kept_iff {r : Record} :
    r ∈ p.kept ↔ r ∈ p.registry.records ∧ Lint.inScope p.config p.roots r = false := by
  rw [kept, Lint.outOfScope, List.mem_filter, Bool.not_eq_true']

/-- **The records of an update can be read back**, if the paths of what was found can stand in a
list. -/
theorem isListable_of_entries (hentries : ∀ v ∈ p.entries, ExceptionList.IsListable v.key.path)
    (hwritable : ∀ r ∈ p.records, r.isWritable = true) : ∀ r ∈ p.records, r.IsListable := by
  intro r hr
  rcases p.mem_records_iff.mp hr with hkept | ⟨v, hv, rfl⟩
  · exact Registry.isListable_of_ofFileIfThere p.registry_eq r (p.mem_kept_iff.mp hkept).1
  · exact Lint.isListable_of_mem_reported (Settings.hasNotes_of_config p.config_eq) p.reported_eq hv
      (hentries v hv) (hwritable _ hr)

/-- The records of an update can be read back, if the files can stand in a list. -/
theorem isListable_of_mem_records
    (hpaths : ∀ q ∈ p.paths, ExceptionList.IsListable q.toText)
    (hwritable : ∀ r ∈ p.records, r.isWritable = true) : ∀ r ∈ p.records, r.IsListable := by
  refine p.isListable_of_entries (fun v hv ↦ ?_) hwritable
  obtain ⟨q, hq, hpath⟩ := Lint.path_of_mem_reported p.reported_eq hv
  exact hpath ▸ hpaths q hq

end Pass

/-- **An update that ends well writes the records of a pass** and announces how many they are. -/
theorem exists_pass_of_update {verbose : Bool} {out err : Text} (hupdate : s.update = true)
    (h : (run host ⟨verbose, .lint, s⟩).ending = .exit 0 out err) :
    ∃ p : Pass s host, (∀ r ∈ p.records, r.isWritable = true) ∧
      (run host ⟨verbose, .lint, s⟩).host.disk.contents? s.list =
        some (Utf8.encode (ExceptionList.render p.records)) ∧
      announcement (savedMessage s.list p.result.all.length p.kept.length) = .ok err := by
  obtain ⟨config, hconfig⟩ := config_of_run_lint h
  rw [run_lint verbose hconfig] at h ⊢
  have hended := outcome_of_ended h (by omega)
  obtain ⟨run', roots, result, hrun⟩ := exists_result_of_lint hended
  obtain ⟨registry, names, paths, vss, hregistry, hnames, hsources, rfl, rfl, hvss, rfl⟩ :=
    (overRoots_eq_ok_iff hconfig).mp hrun
  rw [hupdate, Bool.not_true, Bool.and_false] at hregistry
  obtain ⟨hhost, houtcome⟩ := lint_of_update hrun hupdate
  obtain ⟨hwritable, hcontents, herr⟩ := spec_of_saveList (houtcome.symm.trans hended)
  refine ⟨⟨config, registry, names, paths, vss, hconfig, hregistry, hnames, hsources, hvss⟩,
    hwritable, ?_, herr⟩
  exact (congrArg (·.disk.contents? s.list) hhost).trans hcontents

/-- An update whose records can be saved, and announced, ends well. -/
theorem update_of_pass (p : Pass s host) (verbose : Bool) (hupdate : s.update = true) {err : Text}
    (hsave : save host s.list (ExceptionList.write p.records) = (host', .ok ()))
    (herr : announcement (savedMessage s.list p.result.all.length p.kept.length) = .ok err) :
    (run host ⟨verbose, .lint, s⟩).host = host' ∧
      (run host ⟨verbose, .lint, s⟩).ending = .exit 0 [] err := by
  obtain ⟨hhost, houtcome⟩ := lint_of_update (p.overRoots_eq hupdate) hupdate
  have hlist : saveList s host p.run p.roots p.result = (host', .ok (.exit 0 [] err)) := by
    -- the records of a pass are those that `saveList` puts together
    rw [Pass.records, savedRecords] at hsave
    unfold saveList
    dsimp only
    rw [hsave]
    exact Prod.ext rfl (map_eq_ok_iff.mpr ⟨err, herr, rfl⟩)
  rw [run_lint verbose p.config_eq]
  rw [hlist] at hhost houtcome
  exact ⟨hhost, ended_of_outcome houtcome⟩

/-! ### Undisturbed hosts -/

/-- Does the second host have the source files of the first? -/
structure Undisturbed (s : Settings) (host host' : Host) : Prop where
  /-- The roots are the same. -/
  roots : (s.allRoots host').outcome = (s.allRoots host).outcome
  /-- The files are the same. -/
  files : s.sources host' = s.sources host
  /-- The files have the same contents. -/
  contents : ∀ paths, s.sources host = .ok paths → ∀ p ∈ paths,
    host'.disk.read (s.workspace / p) = host.disk.read (s.workspace / p)

/-- **In files with the same contents the same is found**, whatever the registry. -/
theorem Pass.mapM_inFile (p : Pass s host) (registry : Registry)
    (hsame : ∀ q ∈ p.paths,
      host'.disk.read (s.workspace / q) = host.disk.read (s.workspace / q)) : p.paths.mapM
      ((s.run p.config registry).inFile host' (Check.Checker.active p.config)) = .ok p.found := by
  refine Eq.trans (mapM_congr fun q hq ↦ ?_) p.found_eq
  simp only [Lint.inFile, Lint.readLines, Settings.run, hsame q hq]

/-- **In undisturbed files the same is found**, whatever the registry. -/
theorem mapM_inFile_of_undisturbed (h : Undisturbed s host host') (p : Pass s host)
    (registry : Registry) : p.paths.mapM
      ((s.run p.config registry).inFile host' (Check.Checker.active p.config)) = .ok p.found :=
  p.mapM_inFile registry (h.contents p.paths p.paths_eq)

end StyleLinter.CommandLine
