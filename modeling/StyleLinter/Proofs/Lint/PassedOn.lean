import StyleLinter.Proofs.Discovery.PassedOn
import StyleLinter.Proofs.Lint.Selection

/-!
# What a run passes on

A run over roots reports that a library cannot be searched or that a file cannot be read. It passes
on what its searches do. Files that a walk has found add nothing to this, but **files that a lister
names do**: a name can lead to a directory, which has no lines to read, and it can be absolute, so
that what is found in the file makes no entry. `discovery_passesOn_iff` says that there is nothing
else, for a search, for a run and for an audit.
-/

namespace StyleLinter.Lint

open Check (Checker)
open Discovery (Search Lister)

variable {run : Lint} {host : Host} {lister : Lister} {roots : List Path} {path : Path} {f : Failure}

/-! ### Checking a file -/

/-- What is passed on when a file that is there is checked. -/
inductive CheckingPassesOn (run : Lint) (host : Host) (path : Path) : Failure → Prop
  /-- The path leads to a directory. -/
  | directory (h : host.disk.read (run.base / path) = .error (.refused .isDirectory)) :
      CheckingPassesOn run host path (.refused .isDirectory (run.base / path))
  /-- Something is found in a file with an absolute path. -/
  | absolute {lines : List Text} {checker : Checker} (habsolute : path.toText.head? = some '/')
      (hlines : readLines host (run.base / path) = .ok lines)
      (hchecker : checker ∈ Checker.active run.config)
      (h : checker.findings run.config lines ≠ []) :
      CheckingPassesOn run host path (.invalid (.absolutePath path))

/-- **Checking a file passes on exactly this.** -/
theorem inFile_passesOn_iff (hpath : path.IsNormal)
    (hthere : host.disk.exists? (run.base / path) = .ok true) :
    run.inFile host (Checker.active run.config) path = .error f ∧ f.isDiscovery = false ↔
      CheckingPassesOn run host path f := by
  unfold inFile
  constructor
  · rintro ⟨h, hf⟩
    split at h
    · next hlines =>
      obtain rfl := Except.error.inj h
      unfold readLines at hlines
      split at hlines
      · next o hread =>
        obtain rfl := Except.error.inj hlines
        obtain ⟨k, hk, hsome⟩ := map_eq_ok_iff.mp hthere
        obtain ⟨k, rfl⟩ := Option.isSome_iff_exists.mp hsome
        rcases Files.Disk.obstacle_of_read hk hread with rfl | ⟨rfl, -⟩
        · exact absurd hf nofun
        · exact .directory hread
      · split at hlines
        · obtain rfl := Except.error.inj hlines
          exact absurd hf nofun
        · exact absurd hlines nofun
    · next lines hlines =>
      split at h
      · next i hi =>
        obtain rfl := Except.error.inj h
        obtain ⟨habsolute, ⟨checker, hchecker, hne⟩, rfl⟩ :=
          (Check.violations_eq_error_iff (Path.toText_ne_nil hpath)).mp hi
        exact .absolute habsolute hlines hchecker hne
      · exact absurd h nofun
  · intro h
    cases h with
    | directory h =>
      rw [readLines, h]
      exact ⟨rfl, rfl⟩
    | absolute habsolute hlines hchecker h =>
      rw [hlines]
      dsimp only
      rw [(Check.violations_eq_error_iff (Path.toText_ne_nil hpath)).mpr
        ⟨habsolute, ⟨_, hchecker, h⟩, rfl⟩]
      exact ⟨rfl, rfl⟩

/-- Checking a regular file with a relative path passes nothing on. -/
theorem not_checkingPassesOn (hpath : path.IsRelative)
    (hfile : host.disk.kind? (run.base / path) = .ok (some .file)) :
    ¬CheckingPassesOn run host path f := by
  intro h
  cases h with
  | directory h =>
    rcases Files.Disk.obstacle_of_read hfile h with h | ⟨-, h⟩
    · exact absurd h nofun
    · exact absurd h nofun
  | absolute habsolute => exact hpath.head?_toText habsolute

/-! ### Runs -/

/-- **What is passed on when a run over roots is made.** -/
inductive PassesOn (run : Lint) (host : Host) (roots : List Path) (lister : Lister) : Failure → Prop
  /-- The files of a root are searched. -/
  | searching {before after : List Path} {root : Path} {f : Failure}
      (hroots : roots = before ++ root :: after)
      (hbefore : ∀ q ∈ before, ∃ files, ((run.search lister).files host q).outcome = .ok files)
      (hhere : root ≠ Path.here) (h : (run.search lister).PassesOn host root f) :
      PassesOn run host roots lister f
  /-- A file that the lister has named is checked. -/
  | checking {before after : List Path} {path : Path} {f : Failure}
      (htracked : run.config.tracked = true)
      (hsources : run.sources host roots lister = .ok (before ++ path :: after))
      (hbefore : ∀ p ∈ before, ∃ vs, run.inFile host (Checker.active run.config) p = .ok vs)
      (h : CheckingPassesOn run host path f) : PassesOn run host roots lister f

section Sources

variable {paths : List Path} (hroots : ∀ root ∈ roots, root.IsRelative)
  (hsources : run.sources host roots lister = .ok paths)

include hsources

/-- A source file is there. -/
theorem exists?_of_mem_sources (hp : path ∈ paths) :
    host.disk.exists? (run.base / path) = .ok true := by
  obtain ⟨root, -, files, hfiles, hp⟩ := (mem_sources_iff hsources).mp hp
  obtain ⟨candidates, hcandidates, -⟩ := Search.mem_candidates_of_mem_files hfiles
  exact ((Search.mem_files_iff hfiles hcandidates).mp hp).2.2

include hroots

theorem inFile_passesOn_iff_of_mem_sources (hp : path ∈ paths) :
    run.inFile host (Checker.active run.config) path = .error f ∧ f.isDiscovery = false ↔
      CheckingPassesOn run host path f := by
  have hnormal := isNormal_of_mem_sources (fun root hroot ↦ (hroots root hroot).isNormal) hsources hp
  exact inFile_passesOn_iff hnormal (exists?_of_mem_sources hsources hp)

/-- A source file that a walk has found is a regular file with a relative path. -/
theorem isRelative_of_walk (hwalk : run.config.tracked = false) (hp : path ∈ paths) :
    path.IsRelative ∧ host.disk.kind? (run.base / path) = .ok (some .file) := by
  obtain ⟨root, hroot, files, hfiles, hp⟩ := (mem_sources_iff hsources).mp hp
  have hnone : (run.search lister).lister = none := lister_search_of_walk hwalk
  refine ⟨Search.isRelative_of_mem_files (hroots root hroot) (fun _ hsome ↦ ?_) hfiles hp, ?_⟩
  · exact absurd (hnone.symm.trans hsome) nofun
  · obtain ⟨candidates, hcandidates, hmem⟩ := Search.mem_candidates_of_mem_files hfiles
    rw [Search.outcome_candidates_of_walk hnone] at hcandidates
    exact Discovery.kind?_of_mem_walkRoot (hroots root hroot).slashes hcandidates (hmem path hp)

end Sources

/-- **A run over relative roots passes on exactly this.** -/
theorem overRoots_passesOn_iff (hroots : ∀ root ∈ roots, root.IsRelative) :
    (run.overRoots host roots lister).outcome = .error f ∧ f.isDiscovery = false ↔
      run.PassesOn host roots lister f := by
  rw [outcome_overRoots, bind_eq_error_iff]
  constructor
  · rintro ⟨h | ⟨paths, hsources, h⟩, hf⟩
    · obtain ⟨before, root, after, rfl, hbefore, h⟩ :=
        mapM_eq_error_iff.mp (map_eq_error_iff.mp h)
      have hroot := hroots root (List.mem_append_right _ List.mem_cons_self)
      obtain ⟨hhere, h⟩ := (Search.files_passesOn_iff hroot).mp ⟨h, hf⟩
      exact .searching rfl hbefore hhere h
    · rw [outcome_overFiles, map_eq_error_iff] at h
      obtain ⟨before, path, after, rfl, hbefore, h⟩ := mapM_eq_error_iff.mp h
      have hmem : path ∈ before ++ path :: after := List.mem_append_right _ List.mem_cons_self
      have h := (inFile_passesOn_iff_of_mem_sources hroots hsources hmem).mp ⟨h, hf⟩
      cases htracked : run.config.tracked with
      | true => exact .checking htracked hsources hbefore h
      | false =>
        obtain ⟨hrelative, hfile⟩ := isRelative_of_walk hroots hsources htracked hmem
        exact absurd h (not_checkingPassesOn hrelative hfile)
  · intro h
    cases h with
    | searching hsplit hbefore hhere h =>
      have hroot := hroots _ (hsplit ▸ List.mem_append_right _ List.mem_cons_self)
      obtain ⟨h, hf⟩ := (Search.files_passesOn_iff hroot).mpr ⟨hhere, h⟩
      exact ⟨.inl (map_eq_error_iff.mpr
        (mapM_eq_error_iff.mpr ⟨_, _, _, hsplit, hbefore, h⟩)), hf⟩
    | @checking before after path _ _ hsources hbefore h =>
      have hmem : path ∈ before ++ path :: after := List.mem_append_right _ List.mem_cons_self
      obtain ⟨h, hf⟩ := (inFile_passesOn_iff_of_mem_sources hroots hsources hmem).mpr h
      refine ⟨.inr ⟨_, hsources, ?_⟩, hf⟩
      rw [outcome_overFiles, map_eq_error_iff]
      exact mapM_eq_error_iff.mpr ⟨_, _, _, rfl, hbefore, h⟩

/-- **What finding and reading files is not reported for.** Whatever the files, the lister and the
configuration are, and whatever the program for version control answers: a search of the files of a
relative root, a run over relative roots and an audit of them end, fail as a failure to find or read
files, or pass on what `Search.PassesOn` and `Lint.PassesOn` say. -/
theorem discovery_passesOn_iff (host : Host) (f : Failure) :
    (∀ (s : Search) (root : Path), root.IsRelative →
      ((s.files host root).outcome = .error f ∧ f.isDiscovery = false ↔
        root ≠ Path.here ∧ s.PassesOn host root f)) ∧
    ∀ (run : Lint) (lister : Lister) (roots : List Path), (∀ root ∈ roots, root.IsRelative) →
      ((run.overRoots host roots lister).outcome = .error f ∧ f.isDiscovery = false ↔
        run.PassesOn host roots lister f) ∧
      ((run.audit host roots lister).outcome = .error f ∧ f.isDiscovery = false ↔
        run.PassesOn host roots lister f) := by
  refine ⟨fun s root hroot ↦ Search.files_passesOn_iff hroot, fun run lister roots hroots ↦ ?_⟩
  rw [audit_eq_error_iff]
  exact ⟨overRoots_passesOn_iff hroots, overRoots_passesOn_iff hroots⟩

/-! ### A sample -/

/-- A library `A` that can be listed and not entered, and a library `B` with a directory that has
the name of a source file. -/
def strangeHost : Host where
  disk :=
    { tree := (((Files.Tree.empty.put ["A"] (.directory { enter := false })).put ["A", "X.lean"]
        (.file {} [])).put ["B"] (.directory {})).put ["B", "d.lean"] (.directory {})
      current := [] }
  git := none

/-- The directory that has the name of a source file. -/
def strangePath : Path := ⟨0, ["B", "d.lean"]⟩

/-- A lister that names it. -/
def strangeLister : Lister := .given ["B/d.lean"]

/-- The search that walks the directories. -/
def walkingSearch : Search where
  base := Path.here

theorem sources_strangeHost :
    trackedRun.sources strangeHost [⟨0, ["B"]⟩] strangeLister = .ok [strangePath] := by
  have hsearch : trackedRun.search strangeLister =
      ⟨Path.here, defaultExtension, some strangeLister⟩ := rfl
  have hfiles : ((trackedRun.search strangeLister).files strangeHost ⟨0, ["B"]⟩).outcome =
      .ok [strangePath] := by
    rw [hsearch]
    refine Search.files_eq_ok_iff.mpr ⟨by decide, [strangePath], rfl, fun p hp ↦ ?_, by cbv⟩
    rw [List.mem_singleton.mp hp]
    exact .inr ⟨true, by cbv⟩
  exact sources_eq_ok_iff.mpr ⟨[[strangePath]], mapM_eq_ok_iff.mpr (.cons hfiles .nil), by decide⟩

/-- **A search that is denied a name, and a run and an audit that read a directory.** -/
theorem discovery_passesOn_iff_strange :
    (walkingSearch.files strangeHost ⟨0, ["A"]⟩).outcome =
      .error (.refused .denied ⟨0, ["A", "X.lean"]⟩) ∧
    (trackedRun.overRoots strangeHost [⟨0, ["B"]⟩] strangeLister).outcome =
      .error (.refused .isDirectory strangePath) ∧
    (trackedRun.audit strangeHost [⟨0, ["B"]⟩] strangeLister).outcome =
      .error (.refused .isDirectory strangePath) := by
  have hspot : strangeHost.disk.spot ⟨0, ["A"]⟩ = .ok ⟨["A"], 0⟩ := by cbv
  have hnames : strangeHost.disk.namesAt ["A"] = .ok ["X.lean"] := by cbv
  have hdenied : strangeHost.disk.kind? (Path.child ⟨0, ["A"]⟩ "X.lean") =
      .error (.refused .denied) := by cbv
  have hread : strangeHost.disk.read strangePath = .error (.refused .isDirectory) := by cbv
  have hfirst : Discovery.IsFirstTrouble strangeHost.disk ⟨0, ["A"]⟩ ["X.lean"]
      (.refused .denied ⟨0, ["A", "X.lean"]⟩) := by
    refine ⟨.refused hspot hnames List.mem_cons_self hdenied, fun {names _} h hearlier ↦ ?_⟩
    -- all trouble is at the one name or below it
    obtain ⟨n, hn, rest, rfl⟩ := h.exists_cons hspot hnames
    rw [List.mem_singleton.mp hn] at hearlier
    cases hearlier with
    | rel hlt => exact hlt.2 rfl
    | cons hrest => exact Discovery.not_earlier_nil hrest
  have hsearch : walkingSearch.PassesOn strangeHost ⟨0, ["A"]⟩
      (.refused .denied ⟨0, ["A", "X.lean"]⟩) := .below rfl hfirst
  have hrun : trackedRun.PassesOn strangeHost [⟨0, ["B"]⟩] strangeLister
      (.refused .isDirectory strangePath) :=
    @PassesOn.checking _ _ _ _ [] [] strangePath _ rfl sources_strangeHost
      (fun _ hp ↦ absurd hp List.not_mem_nil) (.directory hread)
  have hroots : ∀ root ∈ ([⟨0, ["B"]⟩] : List Path), root.IsRelative := fun root hroot ↦
    List.mem_singleton.mp hroot ▸ Path.isRelative_ofText (t := "B") (by decide)
  refine ⟨?_, ?_, ?_⟩
  · exact (((discovery_passesOn_iff strangeHost _).1 walkingSearch ⟨0, ["A"]⟩
      (Path.isRelative_ofText (t := "A") (by decide))).mpr ⟨by decide, hsearch⟩).1
  · exact (((discovery_passesOn_iff strangeHost _).2 trackedRun strangeLister _ hroots).1.mpr hrun).1
  · exact (((discovery_passesOn_iff strangeHost _).2 trackedRun strangeLister _ hroots).2.mpr hrun).1

end StyleLinter.Lint
