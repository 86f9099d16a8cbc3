import Mathlib
import StyleLinter.Proofs.Lint.Scope

/-!
# Roots as a set

A run takes its roots in an order, one after the other, and it takes a root again that it has had
before, be it in another spelling. None of this shows in what it finds. **Roots with the same
members have the same source files** up to their order (`sources_perm`), since each file is taken
once. A run goes over its files one by one and keeps nothing from one to the next, so the same is
found in them, up to the order (`overRoots_perm`), and what it finds in one of them is what a run
over this file alone finds (`overFiles_alone`).

That a file is told by its path is what the second statement rests on: the paths of the source files
are normal, and normal paths with the same text are equal.
-/

namespace StyleLinter

/-- The part of a result that is about one file. -/
def Result.about (r : Result) (path : Text) : Result where
  new := r.new.filter (·.key.path = path)
  suppressed := r.suppressed.filter (·.key.path = path)
  files := 1

namespace Lint

open Check (Checker)
open Discovery (Search)

variable {run : Lint} {host : Host} {lister : Discovery.Lister} {roots roots' paths : List Path}

/-! ### Source files -/

/-- The source files of each of the roots, root by root. -/
def listings (run : Lint) (host : Host) (roots : List Path) (lister : Discovery.Lister) :
    Except Failure (List (List Path)) :=
  roots.mapM fun root ↦ ((run.search lister).files host root).outcome

theorem sources_eq_ok_iff : run.sources host roots lister = .ok paths ↔
    ∃ found, run.listings host roots lister = .ok found ∧ found.flatten.eraseDups = paths :=
  map_eq_ok_iff

/-- **Roots with the same members have the same source files**, up to the order. -/
theorem sources_perm (hsame : ∀ root, root ∈ roots ↔ root ∈ roots')
    (h : run.sources host roots lister = .ok paths) :
    ∃ paths', run.sources host roots' lister = .ok paths' ∧ paths.Perm paths' := by
  obtain ⟨found, hfound, -⟩ := sources_eq_ok_iff.mp h
  have hfiles : ∀ root ∈ roots', ∃ files,
      ((run.search lister).files host root).outcome = .ok files := by
    intro root hroot
    obtain ⟨files, -, hfiles⟩ := exists_mem_of_mapM hfound ((hsame root).mpr hroot)
    exact ⟨files, hfiles⟩
  obtain ⟨found', hfound'⟩ := exists_mapM hfiles
  have h' : run.sources host roots' lister = .ok found'.flatten.eraseDups :=
    sources_eq_ok_iff.mpr ⟨found', hfound', rfl⟩
  refine ⟨_, h', (List.perm_ext_iff_of_nodup (nodup_sources h) (nodup_sources h')).mpr fun p ↦ ?_⟩
  rw [mem_sources_iff h, mem_sources_iff h']
  exact exists_congr fun root ↦ and_congr_left' (hsame root)

/-- A list without its repetitions is as long as it has members. -/
theorem length_eraseDups (l : List Path) : l.eraseDups.length = l.toFinset.card := by
  have hset : l.eraseDups.toFinset = l.toFinset := by
    ext p
    rw [List.mem_toFinset, List.mem_toFinset, List.mem_eraseDups]
  rw [← hset, List.toFinset_card_of_nodup (nodup_eraseDups l)]

/-! ### Runs -/

/-- **Runs over roots with the same members find the same**, up to the order. -/
theorem overRoots_perm (hsame : ∀ root, root ∈ roots ↔ root ∈ roots') {result : Result}
    (h : (run.overRoots host roots lister).outcome = .ok result) :
    ∃ result', (run.overRoots host roots' lister).outcome = .ok result' ∧
      result.files = result'.files ∧ result.new.Perm result'.new ∧
      result.suppressed.Perm result'.suppressed := by
  obtain ⟨paths, vss, hpaths, hvss, rfl⟩ := overRoots_eq_ok_iff.mp h
  obtain ⟨paths', hpaths', hperm⟩ := sources_perm hsame hpaths
  obtain ⟨vss', hvss', hfound⟩ := mapM_perm hperm hvss
  have hentries : vss.flatten.Perm vss'.flatten := hfound.flatten
  exact ⟨_, overRoots_eq_ok_iff.mpr ⟨paths', vss', hpaths', hvss', rfl⟩, hperm.length_eq,
    hentries.filter _, hentries.filter _⟩

/-- **What is found in one of the files is what a run over this file alone finds.** -/
theorem overFiles_alone (hroots : ∀ root ∈ roots, root.IsNormal) {result : Result}
    (h : (run.overRoots host roots lister).outcome = .ok result)
    (hpaths : run.sources host roots lister = .ok paths) {p : Path} (hp : p ∈ paths) :
    (run.overFiles host (Checker.active run.config) [p]).outcome = .ok (result.about p.toText) := by
  obtain ⟨paths', vss, hpaths', hvss, rfl⟩ := overRoots_eq_ok_iff.mp h
  obtain rfl := Except.ok.inj (hpaths.symm.trans hpaths')
  have hnormal (q : Path) (hq : q ∈ paths) : q.IsNormal := isNormal_of_mem_sources hroots hpaths hq
  have hfile : run.inFile host (Checker.active run.config) p =
      .ok (vss.flatten.filter (·.key.path = p.toText)) := by
    refine filter_flatten_of_mapM hvss (nodup_sources hpaths) hp (fun vs hvs v hv ↦ ?_)
      fun q hq hne vs hvs v hv ↦ ?_
    · exact decide_eq_true (path_of_mem_reportedAt (reportedAt_of_inFile hvs) hv)
    · have hpath : v.key.path = q.toText := path_of_mem_reportedAt (reportedAt_of_inFile hvs) hv
      -- another file has another text
      refine decide_eq_false fun he ↦ hne ?_
      exact Path.eq_of_toText_eq (hnormal q hq) (hnormal p hp) (hpath.symm.trans he)
  have hone : [p].mapM (run.inFile host (Checker.active run.config)) =
      .ok [vss.flatten.filter (·.key.path = p.toText)] :=
    mapM_eq_ok_iff.mpr (.cons hfile .nil)
  rw [outcome_overFiles, hone]
  show Except.ok (run.split 1 _) = _
  rw [List.flatten_singleton, split_filter]
  rfl

/-- A run has as many files as there are paths among the source files of its roots, and it finds
nothing elsewhere. -/
theorem spec_of_overRoots {result : Result}
    (h : (run.overRoots host roots lister).outcome = .ok result) :
    ∃ found, run.listings host roots lister = .ok found ∧
      run.sources host roots lister = .ok found.flatten.eraseDups ∧
      result.files = found.flatten.toFinset.card ∧
      ∀ v ∈ result.all, ∃ p ∈ found.flatten, v.key.path = p.toText := by
  obtain ⟨paths, vss, hpaths, hvss, rfl⟩ := overRoots_eq_ok_iff.mp h
  obtain ⟨found, hfound, rfl⟩ := sources_eq_ok_iff.mp hpaths
  refine ⟨found, hfound, hpaths, length_eraseDups _, fun v hv ↦ ?_⟩
  have hmem : v ∈ vss.flatten := (all_split_perm run _ _).mem_iff.mp hv
  obtain ⟨p, hp, hpath⟩ := path_of_mem_reported (reported_of_mapM_inFile hvss) hmem
  exact ⟨p, List.mem_eraseDups.mp hp, hpath⟩

/-- **The order, the repetition and the spelling of roots do not matter.** Let two lists of texts
spell the same roots. A run over the one ends well exactly if a run over the other does. Then both
have as many files as there are distinct paths among the source files of the roots, and both find
the same, up to the order. All that is found is about these files, and in each of them it is what a
run over this file alone finds. -/
theorem roots_matter_as_a_set (run : Lint) (host : Host) (lister : Discovery.Lister)
    {roots roots' : List Text}
    (hsame : ∀ root, root ∈ roots.map Path.ofText ↔ root ∈ roots'.map Path.ofText) :
    ((∃ result, (run.overRoots host (roots.map Path.ofText) lister).outcome = .ok result) ↔
      ∃ result', (run.overRoots host (roots'.map Path.ofText) lister).outcome = .ok result') ∧
    ∀ result result',
      (run.overRoots host (roots.map Path.ofText) lister).outcome = .ok result →
      (run.overRoots host (roots'.map Path.ofText) lister).outcome = .ok result' →
      ∃ found, run.listings host (roots.map Path.ofText) lister = .ok found ∧
        result.files = found.flatten.toFinset.card ∧ result'.files = found.flatten.toFinset.card ∧
        result.new.Perm result'.new ∧ result.suppressed.Perm result'.suppressed ∧
        (∀ v ∈ result.all, ∃ p ∈ found.flatten, v.key.path = p.toText) ∧
        ∀ p ∈ found.flatten,
          (run.overFiles host (Checker.active run.config) [p]).outcome =
            .ok (result.about p.toText) := by
  have hnormal := Path.forall_isNormal_ofText roots
  refine ⟨⟨fun ⟨result, h⟩ ↦ ?_, fun ⟨result', h'⟩ ↦ ?_⟩, fun result result' h h' ↦ ?_⟩
  · obtain ⟨result', h', -⟩ := overRoots_perm hsame h
    exact ⟨result', h'⟩
  · obtain ⟨result, h, -⟩ := overRoots_perm (fun root ↦ (hsame root).symm) h'
    exact ⟨result, h⟩
  · obtain ⟨found, hfound, hsources, hfiles, hpaths⟩ := spec_of_overRoots h
    obtain ⟨other, hother, hcount, hnew, hsuppressed⟩ := overRoots_perm hsame h
    obtain rfl : other = result' := Except.ok.inj (hother.symm.trans h')
    exact ⟨found, hfound, hfiles, hcount.symm.trans hfiles, hnew, hsuppressed, hpaths, fun p hp ↦
      overFiles_alone hnormal h hsources (List.mem_eraseDups.mpr hp)⟩

/-! ### A sample -/

/-- A library with a file in it, and with one in a directory further down. -/
def libraryHost : Host where
  disk :=
    { tree := (((Files.Tree.empty.put ["A"] (.directory {})).put ["A", "A.lean"]
        (.file {} (Utf8.encode "x\n"))).put ["A", "B"] (.directory {})).put ["A", "B", "Y.lean"]
        (.file {} (Utf8.encode "y\n"))
      current := [] }
  git := none

/-- The file in the library. -/
def outerPath : Path := ⟨0, ["A", "A.lean"]⟩

/-- The file further down. -/
def innerPath : Path := ⟨0, ["A", "B", "Y.lean"]⟩

/-- A configuration that reports all kinds and forbids no strings. -/
def libraryConfig : Config where
  extension := defaultExtension
  lineLimit := 80
  fileLimit := 1000
  forbidden := []
  kinds := none
  tracked := false
  extension_dot := defaultExtension_dot
  extension_long := defaultExtension_long
  lineLimit_pos := by decide
  fileLimit_pos := by decide
  forbidden_ne_nil := nofun
  kinds_isTag := Config.isTag_of_none

/-- A run in the workspace of the library. -/
def libraryRun (registry : Registry) : Lint := ⟨Path.here, libraryConfig, registry⟩

/-- A finding on the first line of a file. -/
def onFirstLine (path : Text) (hne : path ≠ []) (hrel : path.head? ≠ some '/') (r : Rule) :
    Violation where
  key := ⟨path, 1, r.tag, hne, hrel, Nat.one_pos, r.isTag_tag⟩
  message := r.message
  message_ne_nil := r.message_ne_nil

/-- A finding in the file in the library. -/
def outerFinding : Rule → Violation := onFirstLine "A/A.lean" (by decide) (by decide)

/-- A finding in the file further down. -/
def innerFinding : Rule → Violation := onFirstLine "A/B/Y.lean" (by decide) (by decide)

theorem walk_inner_libraryHost : Discovery.walk libraryHost.disk ".lean" ⟨0, ["A", "B"]⟩
    ⟨0, ["A", "B"]⟩ ⟨["A", "B"], 0⟩ = .ok [innerPath] := by
  rw [Discovery.walk_eq]
  cbv

theorem walk_outer_libraryHost : Discovery.walk libraryHost.disk ".lean" ⟨0, ["A"]⟩ ⟨0, ["A"]⟩
    ⟨["A"], 0⟩ = .ok [outerPath, innerPath] := by
  have hnames : libraryHost.disk.namesAt ["A"] = .ok ["A.lean", "B"] := by cbv
  have hfile : Discovery.lookUp libraryHost.disk ⟨["A"], 0⟩ (Path.child ⟨0, ["A"]⟩ "A.lean")
      "A.lean" = .ok .file := by cbv
  have hdirectory : Discovery.lookUp libraryHost.disk ⟨["A"], 0⟩ (Path.child ⟨0, ["A"]⟩ "B") "B" =
      .ok (.directory ⟨["A", "B"], 0⟩) := by cbv
  have houter : Discovery.visit libraryHost.disk ".lean" ⟨0, ["A"]⟩ ⟨0, ["A"]⟩ ⟨["A"], 0⟩ "A.lean" =
      .ok [outerPath] := by
    rw [Discovery.visit, hfile]
    rfl
  have hinner : Discovery.visit libraryHost.disk ".lean" ⟨0, ["A"]⟩ ⟨0, ["A"]⟩ ⟨["A"], 0⟩ "B" =
      .ok [innerPath] := by
    rw [Discovery.visit, hdirectory]
    exact walk_inner_libraryHost
  rw [Discovery.walk_eq, hnames]
  exact map_eq_ok_iff.mpr ⟨_, mapM_eq_ok_iff.mpr (.cons houter (.cons hinner .nil)), rfl⟩

variable (registry : Registry)

theorem files_outer_libraryRun :
    (((libraryRun registry).search (.program Discovery.programName)).files libraryHost
      ⟨0, ["A"]⟩).outcome = .ok [outerPath, innerPath] := by
  have hwalk : Discovery.walkRoot libraryHost Path.here ⟨0, ["A"]⟩ ".lean" =
      .ok [outerPath, innerPath] :=
    Discovery.walkRoot_eq_ok_iff.mpr ⟨⟨["A"], 0⟩, by cbv, by cbv, walk_outer_libraryHost⟩
  refine Search.files_eq_ok_iff.mpr ⟨by decide, _, hwalk, fun p hp ↦ ?_, by cbv⟩
  rcases List.mem_pair.mp hp with rfl | rfl
  · exact .inr ⟨true, by cbv⟩
  · exact .inr ⟨true, by cbv⟩

theorem files_inner_libraryRun :
    (((libraryRun registry).search (.program Discovery.programName)).files libraryHost
      ⟨0, ["A", "B"]⟩).outcome = .ok [innerPath] := by
  have hwalk : Discovery.walkRoot libraryHost Path.here ⟨0, ["A", "B"]⟩ ".lean" =
      .ok [innerPath] :=
    Discovery.walkRoot_eq_ok_iff.mpr ⟨⟨["A", "B"], 0⟩, by cbv, by cbv, walk_inner_libraryHost⟩
  refine Search.files_eq_ok_iff.mpr ⟨by decide, _, hwalk, fun p hp ↦ ?_, by cbv⟩
  obtain rfl := List.mem_singleton.mp hp
  exact .inr ⟨true, by cbv⟩

theorem inFile_outer_libraryRun :
    (libraryRun registry).inFile libraryHost (Checker.active libraryConfig) outerPath =
      .ok [outerFinding .header, outerFinding .documentation] := by
  have hlines : readLines libraryHost (Path.here / outerPath) = .ok ["x\n"] := by cbv
  rw [inFile, libraryRun, hlines]
  rfl

theorem inFile_inner_libraryRun :
    (libraryRun registry).inFile libraryHost (Checker.active libraryConfig) innerPath =
      .ok [innerFinding .header, innerFinding .documentation] := by
  have hlines : readLines libraryHost (Path.here / innerPath) = .ok ["y\n"] := by cbv
  rw [inFile, libraryRun, hlines]
  rfl

/-- The library and the directory in it. -/
def libraryRoots : List Text := ["A", "A/B"]

/-- The same roots in the other order, one of them twice and none in the same spelling. -/
def respelledRoots : List Text := ["A/./B/", "./A", "A//B"]

/-- What there is to find in the library, in the order in which it is found. -/
def libraryFindings : List Violation :=
  [outerFinding .header, outerFinding .documentation, innerFinding .header,
    innerFinding .documentation]

theorem sources_libraryRun :
    (libraryRun registry).sources libraryHost (libraryRoots.map Path.ofText)
      (.program Discovery.programName) = .ok [outerPath, innerPath] :=
  sources_eq_ok_iff.mpr ⟨[[outerPath, innerPath], [innerPath]],
    mapM_eq_ok_iff.mpr (.cons (files_outer_libraryRun registry)
      (.cons (files_inner_libraryRun registry) .nil)), by decide⟩

theorem overRoots_libraryRun :
    ((libraryRun registry).overRoots libraryHost (libraryRoots.map Path.ofText)).outcome =
      .ok ((libraryRun registry).split 2 libraryFindings) := by
  have hfound : [outerPath, innerPath].mapM
      ((libraryRun registry).inFile libraryHost (Checker.active libraryConfig)) = .ok [_, _] :=
    mapM_eq_ok_iff.mpr
      (.cons (inFile_outer_libraryRun registry) (.cons (inFile_inner_libraryRun registry) .nil))
  exact overRoots_eq_ok_iff.mpr ⟨_, _, sources_libraryRun registry, hfound, rfl⟩

/-- **The roots of the library, spelled anew and in the other order**: the run goes over the same
two files and finds the same in them. -/
theorem roots_matter_as_a_set_nested :
    (∀ root, root ∈ libraryRoots.map Path.ofText ↔ root ∈ respelledRoots.map Path.ofText) ∧
    ((libraryRun .empty).overRoots libraryHost (libraryRoots.map Path.ofText)).outcome =
      .ok ⟨libraryFindings, [], 2⟩ ∧
    ∃ result', ((libraryRun .empty).overRoots libraryHost (respelledRoots.map Path.ofText)).outcome =
        .ok result' ∧
      result'.files = 2 ∧ libraryFindings.Perm result'.new ∧ [].Perm result'.suppressed ∧
      ((libraryRun .empty).overFiles libraryHost (Checker.active libraryConfig)
        [innerPath]).outcome = .ok ⟨[innerFinding .header, innerFinding .documentation], [], 1⟩ := by
  have hsame : ∀ root,
      root ∈ libraryRoots.map Path.ofText ↔ root ∈ respelledRoots.map Path.ofText := by
    intro root
    have hroots : libraryRoots.map Path.ofText = [⟨0, ["A"]⟩, ⟨0, ["A", "B"]⟩] := by decide
    have hroots' : respelledRoots.map Path.ofText =
        [⟨0, ["A", "B"]⟩, ⟨0, ["A"]⟩, ⟨0, ["A", "B"]⟩] := by decide
    rw [hroots, hroots']
    grind
  have h := overRoots_libraryRun .empty
  obtain ⟨hexists, hresults⟩ := roots_matter_as_a_set (libraryRun .empty) libraryHost
    (.program Discovery.programName) hsame
  obtain ⟨result', h'⟩ := hexists.mp ⟨_, h⟩
  obtain ⟨found, hfound, hfiles, hfiles', hnew, hsuppressed, -, halone⟩ := hresults _ _ h h'
  have hsources : found.flatten.eraseDups = [outerPath, innerPath] :=
    Except.ok.inj ((sources_eq_ok_iff.mpr ⟨found, hfound, rfl⟩).symm.trans (sources_libraryRun _))
  have hinner : innerPath ∈ found.flatten :=
    List.mem_eraseDups.mp (hsources ▸ List.mem_cons_of_mem _ (List.mem_singleton_self _))
  exact ⟨hsame, h, result', h', hfiles'.trans hfiles.symm, hnew, hsuppressed, halone _ hinner⟩

end Lint

end StyleLinter
