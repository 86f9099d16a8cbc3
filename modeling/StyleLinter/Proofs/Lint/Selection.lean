import StyleLinter.Proofs.Check.Entries
import StyleLinter.Proofs.Lint.Standing

/-!
# Selecting kinds

A run that reports some kinds only does not set all checkers to work, and a checker may answer for a
kind that is reported and for one that is not. Still **selecting kinds only filters**: what the run
finds in a file is the part of what a run that reports all kinds finds there (`inFile_reporting`),
in the same order, and if the one run fails then so does the other, with the same failure. For the
first, a checker that is left out finds nothing that would be reported; for the second, files with
relative paths have no findings that cannot be violations.
-/

namespace StyleLinter

namespace Config

variable {c : Config} {kinds : List Text} {hkinds : ∀ k ∈ kinds, Kind.isTag k = true}

/-- The configuration that reports the kinds, given in any order. -/
def reporting (c : Config) (kinds : List Text) (hkinds : ∀ k ∈ kinds, Kind.isTag k = true) :
    Config :=
  { c with
    kinds := some (inOrder kinds)
    kinds_isTag := by
      rintro ks hks k hk
      obtain rfl := Option.some.inj hks
      exact hkinds k (mem_inOrder.mp hk) }

/-- The configuration that reports all kinds. -/
def reportingAll (c : Config) : Config := { c with kinds := none, kinds_isTag := isTag_of_none }

theorem reports_reporting (k : Text) : (c.reporting kinds hkinds).reports k = kinds.contains k := by
  show (inOrder kinds).contains k = kinds.contains k
  rw [Bool.eq_iff_iff, List.contains_iff_mem, List.contains_iff_mem, mem_inOrder]

end Config

/-- The part of a result that is of the kinds. -/
def Result.only (kinds : List Text) (r : Result) : Result where
  new := r.new.filter (kinds.contains ·.key.kind)
  suppressed := r.suppressed.filter (kinds.contains ·.key.kind)
  files := r.files

namespace Lint

open Check (Checker)
open Discovery (Search Lister)

variable {run : Lint} {host : Host} {lister : Lister} {kinds : List Text}
  {hkinds : ∀ k ∈ kinds, Kind.isTag k = true}

/-- The run that reports the kinds. -/
def reporting (run : Lint) (kinds : List Text) (hkinds : ∀ k ∈ kinds, Kind.isTag k = true) : Lint :=
  { run with config := run.config.reporting kinds hkinds }

/-- The run that reports all kinds. -/
def reportingAll (run : Lint) : Lint := { run with config := run.config.reportingAll }

/-! ### One file -/

/-- In a file with a relative path the active checkers find what there is to report, or the file
cannot be read. -/
theorem inFile_eq_reportedAt {path : Path} (hpath : path.IsRelative) :
    run.inFile host (Checker.active run.config) path = run.reportedAt host path := by
  cases hlines : readLines host (run.base / path) with
  | error f => rw [inFile, reportedAt, hlines]
  | ok lines =>
    obtain ⟨vs, hvs⟩ := Check.exists_violations (Checker.active run.config) run.config
      (Path.toText_ne_nil hpath.isNormal) hpath.head?_toText lines
    have hfile : run.inFile host (Checker.active run.config) path =
        .ok (vs.filter (run.config.reports ·.key.kind)) := by
      rw [inFile, hlines]
      dsimp only
      rw [hvs]
    rw [hfile, reportedAt_of_inFile hfile]

/-- **What there is to report of some kinds** is the part of what there is to report at all. -/
theorem reportedAt_reporting {path : Path} (hpath : path.IsRelative) :
    (run.reporting kinds hkinds).reportedAt host path =
      (run.reportingAll.reportedAt host path).map (List.filter (kinds.contains ·.key.kind)) := by
  have hbase : (run.reporting kinds hkinds).base = run.base := rfl
  have hbase' : run.reportingAll.base = run.base := rfl
  rw [reportedAt, reportedAt, hbase, hbase']
  cases readLines host (run.base / path) with
  | error f => rfl
  | ok lines =>
    obtain ⟨vs, hvs⟩ := Check.exists_violations (Checker.all run.config) run.config
      (Path.toText_ne_nil hpath.isNormal) hpath.head?_toText lines
    -- what the checkers find does not depend on the kinds to report
    have hpart : reportedIn (run.config.reporting kinds hkinds) path lines =
        .ok (vs.filter ((run.config.reporting kinds hkinds).reports ·.key.kind)) :=
      reportedIn_of_violations hvs
    have hall : reportedIn run.config.reportingAll path lines =
        .ok (vs.filter (run.config.reportingAll.reports ·.key.kind)) :=
      reportedIn_of_violations hvs
    have htrue : vs.filter (run.config.reportingAll.reports ·.key.kind) = vs :=
      List.filter_eq_self.mpr fun _ _ ↦ rfl
    have hkind : vs.filter ((run.config.reporting kinds hkinds).reports ·.key.kind) =
        vs.filter (kinds.contains ·.key.kind) :=
      List.filter_congr fun v _ ↦ Config.reports_reporting v.key.kind
    show (reportedIn (run.config.reporting kinds hkinds) path lines).mapError Failure.invalid =
      ((reportedIn run.config.reportingAll path lines).mapError Failure.invalid).map _
    rw [hpart, hall, htrue, hkind]
    rfl

theorem inFile_reporting {path : Path} (hpath : path.IsRelative) :
    (run.reporting kinds hkinds).inFile host
        (Checker.active (run.reporting kinds hkinds).config) path =
      (run.reportingAll.inFile host (Checker.active run.reportingAll.config) path).map
        (List.filter (kinds.contains ·.key.kind)) := by
  rw [inFile_eq_reportedAt hpath, inFile_eq_reportedAt hpath, reportedAt_reporting hpath]

/-! ### Runs -/

/-- **Over files with relative paths**, selecting kinds only filters. -/
theorem overFiles_reporting {paths : List Path} (hpaths : ∀ p ∈ paths, p.IsRelative) :
    ((run.reporting kinds hkinds).overFiles host
        (Checker.active (run.reporting kinds hkinds).config) paths).outcome =
      (run.reportingAll.overFiles host (Checker.active run.reportingAll.config) paths).outcome.map
        (·.only kinds) := by
  have hfiles : paths.mapM ((run.reporting kinds hkinds).inFile host
        (Checker.active (run.reporting kinds hkinds).config)) =
      (paths.mapM (run.reportingAll.inFile host (Checker.active run.reportingAll.config))).map
        (List.map (List.filter (kinds.contains ·.key.kind))) := by
    rw [← mapM_map_right]
    exact mapM_congr fun p hp ↦ inFile_reporting (hpaths p hp)
  rw [outcome_overFiles, outcome_overFiles, hfiles, map_map, map_map]
  congr 1
  funext vss
  rw [← List.filter_flatten, split_filter]
  rfl

/-- **Over roots whose files have relative paths**, selecting kinds only filters. -/
theorem overRoots_reporting {roots : List Path}
    (hpaths : ∀ paths, run.sources host roots lister = .ok paths → ∀ p ∈ paths, p.IsRelative) :
    ((run.reporting kinds hkinds).overRoots host roots lister).outcome =
      (run.reportingAll.overRoots host roots lister).outcome.map (·.only kinds) := by
  -- the source files do not depend on the kinds to report
  have hpart : (run.reporting kinds hkinds).sources host roots lister =
      run.sources host roots lister := rfl
  have hall : run.reportingAll.sources host roots lister = run.sources host roots lister := rfl
  rw [outcome_overRoots, outcome_overRoots, hpart, hall]
  cases hsources : run.sources host roots lister with
  | error f => rfl
  | ok paths => exact overFiles_reporting (hpaths paths hsources)

/-- The source files of relative roots have relative paths. -/
theorem isRelative_of_mem_sources {roots paths : List Path}
    (hroots : ∀ root ∈ roots, root.IsRelative)
    (hlister : run.config.tracked = true → lister.IsRelative host)
    (h : run.sources host roots lister = .ok paths) : ∀ p ∈ paths, p.IsRelative := by
  intro p hp
  obtain ⟨root, hroot, files, hfiles, hp⟩ := (mem_sources_iff h).mp hp
  refine Search.isRelative_of_mem_files (hroots root hroot) (fun lister' hsome ↦ ?_) hfiles hp
  rw [search] at hsome
  split at hsome
  · next htracked => exact Option.some.inj hsome ▸ hlister htracked
  · cases hsome

/-- A run in the workspace of the library over the files that a lister names. -/
def trackedRun : Lint := ⟨Path.here, { libraryConfig with tracked := true }, libraryRegistry⟩

/-- A lister that names the files of the library. -/
def libraryLister : Lister := .given ["A/A.lean", "A/B/Y.lean"]

theorem sources_trackedRun :
    trackedRun.sources libraryHost [⟨0, ["A"]⟩] libraryLister = .ok [outerPath, innerPath] := by
  have hsearch : trackedRun.search libraryLister =
      ⟨Path.here, defaultExtension, some libraryLister⟩ := rfl
  have hfiles : ((trackedRun.search libraryLister).files libraryHost ⟨0, ["A"]⟩).outcome =
      .ok [outerPath, innerPath] := by
    rw [hsearch]
    refine Search.files_eq_ok_iff.mpr ⟨by decide, [outerPath, innerPath], rfl, fun p hp ↦ ?_, by cbv⟩
    rcases List.mem_pair.mp hp with rfl | rfl
    · exact .inr ⟨true, by cbv⟩
    · exact .inr ⟨true, by cbv⟩
  exact sources_eq_ok_iff.mpr ⟨[[outerPath, innerPath]], mapM_eq_ok_iff.mpr (.cons hfiles .nil),
    by decide⟩

theorem overRoots_trackedRun :
    (trackedRun.reportingAll.overRoots libraryHost [⟨0, ["A"]⟩] libraryLister).outcome =
      .ok ⟨newFindings, [outerFinding .header], 2⟩ := by
  have hfound : [outerPath, innerPath].mapM
      (trackedRun.inFile libraryHost (Checker.active libraryConfig)) = .ok [_, _] :=
    mapM_eq_ok_iff.mpr (.cons (inFile_outer_libraryRun libraryRegistry)
      (.cons (inFile_inner_libraryRun libraryRegistry) .nil))
  exact overRoots_eq_ok_iff.mpr ⟨_, _, sources_trackedRun, hfound, by decide⟩

theorem overFiles_trackedRun :
    (trackedRun.reportingAll.overFiles libraryHost (Checker.active trackedRun.reportingAll.config)
      [innerPath]).outcome =
        .ok ⟨[innerFinding .header, innerFinding .documentation], [], 1⟩ := by
  have hfound : [innerPath].mapM (trackedRun.reportingAll.inFile libraryHost
      (Checker.active trackedRun.reportingAll.config)) = .ok [_] :=
    mapM_eq_ok_iff.mpr (.cons (inFile_inner_libraryRun libraryRegistry) .nil)
  rw [outcome_overFiles, hfound]
  exact congrArg Except.ok (by decide)

end Lint

end StyleLinter
