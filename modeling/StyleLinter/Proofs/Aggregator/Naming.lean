import StyleLinter.Proofs.Aggregator.Turn
import StyleLinter.Proofs.Discovery.Agreement
import StyleLinter.Proofs.Files.Writing
import StyleLinter.Proofs.ModuleName

/-!
# What the names of the modules identify

The modules of a root are named after its files, and an aggregator imports the modules. If no name
on the path of any file has a dot but for the extension, the names **identify** the files: no two
modules have the same name or the name of the root, and each name leads back to its file, so that
the aggregator imports every file once. If some name has a dot, they do not
(`modules_identify_files_iff`).
-/

namespace StyleLinter.Aggregator

open Discovery Files

variable {s : Search} {host : Host} {root p : Path} {files : List Path} {modules : List Text}

theorem isRoot_of_isRelative (hroot : root.IsRelative) (hdots : (".." : Text) ∉ root.parts)
    (hne : root ≠ Path.here) : IsRoot root where
  normal := hroot.isNormal
  leadsDown :=
    { slashes := hroot.slashes
      parts_ne_nil := hroot.parts_ne_nil hne
      parts := fun t ht ↦
        ⟨(Path.isPart_iff.mp (hroot.isNormal.isPart t ht)).2, fun h ↦ hdots (h ▸ ht)⟩ }

/-- Do the names of the modules identify the files of the root? -/
structure Identifies (extension : Text) (root : Path) (files : List Path) (modules : List Text) :
    Prop where
  nodup : modules.Nodup
  /-- No module has the name of the root. -/
  ne_root : ∀ m ∈ modules, ModuleName.ofPath (path root extension) extension ≠ .ok m
  /-- The names lead back to the files. -/
  paths : modules.mapM (ModuleName.toPath · extension) = .ok files
  /-- Each file is imported once. -/
  once : ∀ p ∈ files, ∃! m, m ∈ modules ∧ ModuleName.toPath m extension = .ok p

section Walk

variable (hlister : s.lister = none) (hroot : root.IsRelative)
  (hfiles : (s.files host root).outcome = .ok files)

include hlister hroot hfiles

/-- The files of a walk are spelled out below the root. -/
theorem exists_below_of_mem_files (hp : p ∈ files) : ∃ front stem, stem ≠ [] ∧
    p = ⟨0, root.parts ++ front ++ [stem ++ s.extension]⟩ ∧ p.IsNormal := by
  obtain ⟨candidates, hcandidates, hsub⟩ := Search.mem_candidates_of_mem_files hfiles
  rw [Search.outcome_candidates_of_walk hlister] at hcandidates
  obtain ⟨stem, hstem, hsource⟩ :=
    (Search.mem_walkRoot_iff_isSource hroot hcandidates).mp (hsub p hp)
  have hnormal := (hsource.isRelative hroot).isNormal
  obtain ⟨front, rfl, -, -⟩ := hsource
  refine ⟨front, stem, hstem, Path.eq_of_parts_eq hroot.slashes ?_, hnormal⟩
  exact (List.append_assoc ..).symm

/-- The files of a walk can be named. -/
theorem exists_modules_of_files :
    ∃ modules, files.mapM (ModuleName.ofPath · s.extension) = .ok modules := by
  refine exists_mapM fun p hp ↦ ?_
  obtain ⟨front, stem, hstem, rfl, -⟩ := exists_below_of_mem_files hlister hroot hfiles hp
  exact ModuleName.exists_ofPath_iff.mpr (ModuleName.hasName_concat hstem _)

variable (hlong : 2 ≤ s.extension.length) (hextension : '/' ∉ s.extension)

include hlong hextension

/-- The name of a file leads back to it exactly if there are no dots on its path. -/
theorem toPath_iff_of_mem_files (hp : p ∈ files) {m : Text}
    (h : ModuleName.ofPath p s.extension = .ok m) :
    ModuleName.toPath m s.extension = .ok p ↔ ModuleName.Undotted s.extension p := by
  obtain ⟨front, stem, hstem, rfl, hnormal⟩ := exists_below_of_mem_files hlister hroot hfiles hp
  exact ModuleName.toPath_iff_undotted hlong hextension hnormal hstem h

/-- **A file without dots on its path does not have the name of the root.** -/
theorem ofPath_path_ne (hisRoot : IsRoot root) (hp : p ∈ files)
    (hundotted : ModuleName.Undotted s.extension p) {m : Text}
    (h : ModuleName.ofPath p s.extension = .ok m) :
    ModuleName.ofPath (path root s.extension) s.extension ≠ .ok m := by
  intro haggregator
  have hback := (toPath_iff_of_mem_files hlister hroot hfiles hlong hextension hp h).mpr hundotted
  obtain ⟨candidates, hcandidates, -⟩ := Search.mem_candidates_of_mem_files hfiles
  have htext := ((Search.mem_files_iff hfiles hcandidates).mp hp).2.1
  obtain ⟨front, stem, -, rfl, -⟩ := exists_below_of_mem_files hlister hroot hfiles hp
  have hdots := ModuleName.undotted_concat_iff.mp hundotted
  have hnormal := (isRoot_path hisRoot hextension).normal
  -- the name of the root leads to its aggregator, which is not among the files
  rw [← toText_path hisRoot hextension] at htext
  obtain ⟨rootFront, name, rfl⟩ := hisRoot.exists_concat
  rw [path_concat hisRoot hextension] at hnormal haggregator htext
  have hname : name ≠ [] :=
    (Path.isPart_iff.mp (hisRoot.normal.isPart name List.mem_concat_self)).1
  have hrootBack := (ModuleName.toPath_iff_undotted hlong hextension hnormal hname haggregator).mpr
    (ModuleName.undotted_concat_iff.mpr fun t ht ↦
      hdots t (List.mem_append_left _ (List.mem_append_left _ ht)))
  exact htext (congrArg Path.toText (Except.ok.inj (hback.symm.trans hrootBack)))

/-- **Names without dots identify the files.** -/
theorem identifies_of_undotted (hisRoot : IsRoot root)
    (hmodules : files.mapM (ModuleName.ofPath · s.extension) = .ok modules)
    (hundotted : ∀ p ∈ files, ModuleName.Undotted s.extension p) :
    Identifies s.extension root files modules := by
  have hback : ∀ p ∈ files, ∀ m, ModuleName.ofPath p s.extension = .ok m →
      ModuleName.toPath m s.extension = .ok p := fun p hp m h ↦
    (toPath_iff_of_mem_files hlister hroot hfiles hlong hextension hp h).mpr (hundotted p hp)
  refine ⟨?_, fun m hm ↦ ?_, mapM_back hmodules hback, fun p hp ↦ ?_⟩
  · have hnodup := List.Pairwise.and_mem.mp (Search.nodup_of_files hlister hfiles)
    refine pairwise_of_mapM hmodules hnodup fun ⟨hp, hp', hne⟩ h h' hm ↦ hne ?_
    exact Except.ok.inj ((hback _ hp _ h).symm.trans (hm ▸ hback _ hp' _ h'))
  · obtain ⟨p, hp, h⟩ := exists_of_mem_mapM hmodules hm
    exact ofPath_path_ne hlister hroot hfiles hlong hextension hisRoot hp (hundotted p hp) h
  · obtain ⟨m, hm, h⟩ := exists_mem_of_mapM hmodules hp
    refine ⟨m, ⟨hm, hback p hp m h⟩, ?_⟩
    rintro m' ⟨hm', hpath⟩
    obtain ⟨p', hp', h'⟩ := exists_of_mem_mapM hmodules hm'
    obtain rfl := Except.ok.inj ((hback p' hp' m' h').symm.trans hpath)
    exact Except.ok.inj (h'.symm.trans h)

end Walk

/-- What an update writes imports the modules. -/
theorem contents?_of_update {host' : Host} (hmodules : (s.modules host root).outcome = .ok modules)
    (h : (update s host root).outcome = .ok (host', false)) :
    host'.disk.contents? (s.base / path root s.extension) =
      some (Utf8.encode (render modules)) := by
  obtain ⟨modules', text, hmodules', -, ⟨-, -, hb⟩ | ⟨-, -, disk, hwrite, rfl⟩⟩ :=
    update_eq_ok_iff.mp h
  · exact absurd hb nofun
  · obtain rfl := Except.ok.inj (hmodules.symm.trans hmodules')
    exact Disk.contents?_write hwrite

/-- **Module names identify files that have no dots in their names**, those of the extension apart,
and no others. The files of a relative root without double dots are named whatever they are, and an
aggregator that is written imports what they are named. The names are pairwise distinct, none of
them is that of the root, and they lead back to the files, each of which is so imported once,
exactly if no name on the path of a file has a dot before its extension. -/
theorem modules_identify_files_iff (hlister : s.lister = none) (hroot : root.IsRelative)
    (hdots : (".." : Text) ∉ root.parts) (hextension : '/' ∉ s.extension)
    (hlong : 2 ≤ s.extension.length) (hfiles : (s.files host root).outcome = .ok files) :
    ∃ modules, (s.modules host root).outcome = .ok modules ∧
      (∀ host', (update s host root).outcome = .ok (host', false) →
        host'.disk.contents? (s.base / path root s.extension) =
          some (Utf8.encode (render modules))) ∧
      (Identifies s.extension root files modules ↔
        ∀ p ∈ files, ModuleName.Undotted s.extension p) := by
  obtain ⟨modules, hmodules⟩ := exists_modules_of_files hlister hroot hfiles
  have hnamed := Search.modules_eq_ok_iff.mpr ⟨files, hfiles, hmodules⟩
  refine ⟨modules, hnamed, fun host' h ↦ contents?_of_update hnamed h, fun h p hp ↦ ?_, fun h ↦ ?_⟩
  · obtain ⟨m, -, hback⟩ := exists_of_mem_mapM h.paths hp
    exact ModuleName.undotted_of_toPath hlong hextension hback
  · have hisRoot := isRoot_of_isRelative hroot hdots (Search.files_eq_ok_iff.mp hfiles).1
    exact identifies_of_undotted hlister hroot hfiles hlong hextension hisRoot hmodules h

/-! ### Two files with one name -/

/-- A workspace with two files, one of which has a dot where the other one has a slash. -/
def dottedHost : Host where
  disk :=
    { tree := (((Tree.empty.put ["A"] (.directory {})).put ["A", "B.C.lean"]
        (.file {} (Utf8.encode "x\n"))).put ["A", "B"] (.directory {})).put ["A", "B", "C.lean"]
        (.file {} (Utf8.encode "y\n"))
      current := [] }
  git := none

/-- A search that walks the workspace. -/
def dottedSearch : Search where
  base := Path.here

/-- The directory that the files are in. -/
def dottedRoot : Path := ⟨0, ["A"]⟩

/-- The file with the dot. -/
def dottedPath : Path := ⟨0, ["A", "B.C.lean"]⟩

/-- The file with the slash. -/
def undottedPath : Path := ⟨0, ["A", "B", "C.lean"]⟩

theorem walk_inner_dottedHost : walk dottedHost.disk ".lean" ⟨0, ["A", "B"]⟩ ⟨0, ["A", "B"]⟩
    ⟨["A", "B"], 0⟩ = .ok [undottedPath] := by
  rw [walk_eq]
  cbv

theorem walk_dottedHost : walk dottedHost.disk ".lean" ⟨0, ["A"]⟩ ⟨0, ["A"]⟩ ⟨["A"], 0⟩ =
    .ok [undottedPath, dottedPath] := by
  have hnames : dottedHost.disk.namesAt ["A"] = .ok ["B", "B.C.lean"] := by cbv
  have hdirectory : lookUp dottedHost.disk ⟨["A"], 0⟩ (Path.child ⟨0, ["A"]⟩ "B") "B" =
      .ok (.directory ⟨["A", "B"], 0⟩) := by cbv
  have hfile : lookUp dottedHost.disk ⟨["A"], 0⟩ (Path.child ⟨0, ["A"]⟩ "B.C.lean") "B.C.lean" =
      .ok .file := by cbv
  have hinner : visit dottedHost.disk ".lean" ⟨0, ["A"]⟩ ⟨0, ["A"]⟩ ⟨["A"], 0⟩ "B" =
      .ok [undottedPath] := by
    rw [visit, hdirectory]
    exact walk_inner_dottedHost
  have houter : visit dottedHost.disk ".lean" ⟨0, ["A"]⟩ ⟨0, ["A"]⟩ ⟨["A"], 0⟩ "B.C.lean" =
      .ok [dottedPath] := by
    rw [visit, hfile]
    rfl
  rw [walk_eq, hnames]
  exact map_eq_ok_iff.mpr ⟨_, mapM_eq_ok_iff.mpr (.cons hinner (.cons houter .nil)), rfl⟩

theorem files_dottedHost :
    (dottedSearch.files dottedHost dottedRoot).outcome = .ok [dottedPath, undottedPath] := by
  have hwalk : walkRoot dottedHost Path.here dottedRoot ".lean" = .ok [undottedPath, dottedPath] :=
    walkRoot_eq_ok_iff.mpr ⟨⟨["A"], 0⟩, by cbv, by cbv, walk_dottedHost⟩
  refine Search.files_eq_ok_iff.mpr ⟨by decide, _, hwalk, fun p hp ↦ ?_, by cbv⟩
  rcases List.mem_pair.mp hp with rfl | rfl
  · exact .inr ⟨true, by cbv⟩
  · exact .inr ⟨true, by cbv⟩

/-- **Two files with one name**: the names of the modules do not identify them. -/
theorem modules_identify_files_iff_dotted :
    (dottedSearch.modules dottedHost dottedRoot).outcome = .ok ["A.B.C", "A.B.C"] ∧
      ¬ Identifies ".lean" dottedRoot [dottedPath, undottedPath] ["A.B.C", "A.B.C"] := by
  have hroot : dottedRoot.IsRelative := Path.isRelative_ofText (t := "A") (by decide)
  obtain ⟨modules, hmodules, -, hidentifies⟩ := modules_identify_files_iff rfl hroot (by decide)
    (by decide) (by decide) files_dottedHost
  have hnames : [dottedPath, undottedPath].mapM (ModuleName.ofPath · ".lean") =
      .ok ["A.B.C", "A.B.C"] := by cbv
  have hnamed : (dottedSearch.modules dottedHost dottedRoot).outcome = .ok ["A.B.C", "A.B.C"] :=
    Search.modules_eq_ok_iff.mpr ⟨_, files_dottedHost, hnames⟩
  obtain rfl := Except.ok.inj (hmodules.symm.trans hnamed)
  refine ⟨hnamed, fun h ↦ ?_⟩
  have hundotted : ModuleName.Undotted ".lean"
      ⟨0, (["A"] : List Text) ++ [("B.C" : Text) ++ (".lean" : Text)]⟩ :=
    hidentifies.mp h dottedPath List.mem_cons_self
  exact ModuleName.undotted_concat_iff.mp hundotted "B.C" (by decide) (by decide)

end StyleLinter.Aggregator
