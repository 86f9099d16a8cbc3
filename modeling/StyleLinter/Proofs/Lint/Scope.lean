import StyleLinter.Proofs.Discovery.Selected
import StyleLinter.Proofs.Lint.Reported
import StyleLinter.Proofs.Registry.Answers

/-!
# Scope

What a run over roots says something about. The scope of a run is decided on texts, by a root and a
slash in front of a path (`Lint.isUnder`), while its files are found on the disk. For files that a
walk found the two agree: **a file below a root has the text of the root and a slash in front of its
own** (`isUnder_of_isBelow`), so what a walk finds is always in scope (`inScope_of_mem_reported`).
-/

namespace StyleLinter.Lint

open Discovery (IsBelow Search)

/-- **An audit** ends if its run does, and picks what is stale and in scope. -/
theorem audit_eq_ok_iff {run : Lint} {host : Host} {roots : List Path} {lister : Discovery.Lister}
    {stale : List Record} : (run.audit host roots lister).outcome = .ok stale ↔
      ∃ result, (run.overRoots host roots lister).outcome = .ok result ∧
        stale = (run.registry.stale result.all).filter (inScope run.config roots) := by
  unfold audit
  constructor
  · intro h
    obtain ⟨result, hresult, h⟩ := Attempt.outcome_bind_eq_ok_iff.mp h
    exact ⟨result, hresult, (Except.ok.inj h).symm⟩
  · rintro ⟨result, hresult, rfl⟩
    exact Attempt.outcome_bind_eq_ok_iff.mpr ⟨result, hresult, rfl⟩

/-- An audit fails with its run. -/
theorem audit_eq_error_iff {run : Lint} {host : Host} {roots : List Path}
    {lister : Discovery.Lister} {f : Failure} : (run.audit host roots lister).outcome = .error f ↔
      (run.overRoots host roots lister).outcome = .error f := by
  rw [audit, Attempt.outcome_bind_eq_error_iff]
  exact ⟨fun h ↦ h.resolve_right fun ⟨_, _, h⟩ ↦ absurd h nofun, .inl⟩

theorem inScope_iff {config : Config} {roots : List Path} {r : Record} :
    inScope config roots r = true ↔
      (∃ root ∈ roots, isUnder root r.key.path = true) ∧ config.reports r.key.kind = true := by
  rw [inScope, Bool.and_eq_true, List.any_eq_true]

theorem mem_outOfScope_iff {config : Config} {roots : List Path} {registry : Registry} {r : Record} :
    r ∈ outOfScope config roots registry ↔
      r ∈ registry.records ∧ inScope config roots r = false := by
  rw [outOfScope, List.mem_filter, Bool.not_eq_true']

/-- **A file below a root is under its text**, unless the root has no name at all. -/
theorem isUnder_of_isBelow {p root : Path} (hp : IsBelow p root) (hroot : root.parts ≠ []) :
    isUnder root p.toText = true := by
  obtain ⟨hslashes, names, hne, -, hparts⟩ := hp
  have hp : p.parts ≠ [] := by
    rw [hparts]
    exact fun h ↦ hroot (List.append_eq_nil_iff.mp h).1
  rw [isUnder, Text.startsWith, List.isPrefixOf_iff_prefix, Path.toText_of_parts hp,
    Path.toText_of_parts hroot, hslashes, hparts, Text.joinWith_append hroot hne]
  exact ⟨Text.joinWith "/" names, by simp⟩

/-- A path below a root whose text does not begin with a slash has a root with a name. -/
theorem parts_ne_nil_of_relative {p root : Path} (hp : IsBelow p root) (hroot : root ≠ Path.here)
    (hrel : p.toText.head? ≠ some '/') : root.parts ≠ [] := by
  obtain ⟨hslashes, names, hne, -, hparts⟩ := hp
  intro hnil
  have hp : p.parts ≠ [] := by
    rw [hparts, hnil]
    exact hne
  rw [Path.toText_of_parts hp] at hrel
  have hzero : root.slashes = 0 := by
    rw [← hslashes]
    cases hs : p.slashes with
    | zero => rfl
    | succ n =>
      rw [hs] at hrel
      exact absurd rfl hrel
  exact hroot (Path.mk.injEq .. ▸ ⟨hzero, hnil⟩)

/-! ### Walks -/

section Sources

variable {run : Lint} {host : Host} {roots paths : List Path} {lister : Discovery.Lister}

/-- The source files of the roots are those of one root or another. -/
theorem mem_sources_iff (h : run.sources host roots lister = .ok paths) {p : Path} :
    p ∈ paths ↔ ∃ root ∈ roots, ∃ files,
      ((run.search lister).files host root).outcome = .ok files ∧ p ∈ files := by
  obtain ⟨found, hfound, rfl⟩ := map_eq_ok_iff.mp h
  rw [List.mem_eraseDups, mem_flatten_of_mapM hfound]

theorem nodup_sources (h : run.sources host roots lister = .ok paths) : paths.Nodup := by
  obtain ⟨found, -, rfl⟩ := map_eq_ok_iff.mp h
  exact nodup_eraseDups _

/-- The source files of normal roots have normal paths. -/
theorem isNormal_of_mem_sources (hroots : ∀ root ∈ roots, root.IsNormal)
    (h : run.sources host roots lister = .ok paths) {p : Path} (hp : p ∈ paths) : p.IsNormal := by
  obtain ⟨root, hroot, files, hfiles, hp⟩ := (mem_sources_iff h).mp hp
  exact Search.isNormal_of_mem_files (hroots root hroot) hfiles hp

/-- A run that does not ask a lister walks. -/
theorem lister_search_of_walk (hwalk : run.config.tracked = false) :
    (run.search lister).lister = none := by
  rw [search, hwalk]
  rfl

/-- **The source files of a walk lie below the roots.** -/
theorem exists_root_of_mem_sources (hwalk : run.config.tracked = false)
    (h : run.sources host roots lister = .ok paths) {p : Path} (hp : p ∈ paths) :
    ∃ root ∈ roots, root ≠ Path.here ∧ IsBelow p root := by
  obtain ⟨root, hroot, files, hfiles, hp⟩ := (mem_sources_iff h).mp hp
  exact ⟨root, hroot, (Search.steps_of_files hfiles).1,
    Search.isBelow_of_mem_files (lister_search_of_walk hwalk) hfiles hp⟩

/-- **What a walk finds is in scope.** -/
theorem inScope_of_mem_reported (hwalk : run.config.tracked = false)
    (h : run.sources host roots lister = .ok paths) {vs : List Violation}
    (hreported : run.reported host paths = .ok vs) {v : Violation} (hv : v ∈ vs) :
    inScope run.config roots v.toRecord = true := by
  obtain ⟨p, hp, hpath⟩ := path_of_mem_reported hreported hv
  obtain ⟨root, hroot, hhere, hbelow⟩ := exists_root_of_mem_sources hwalk h hp
  have hrel : p.toText.head? ≠ some '/' := hpath ▸ v.key.relative
  have hunder : isUnder root v.key.path = true := by
    rw [hpath]
    exact isUnder_of_isBelow hbelow (parts_ne_nil_of_relative hbelow hhere hrel)
  exact inScope_iff.mpr ⟨⟨root, hroot, hunder⟩, reports_of_mem_reported hreported hv⟩

end Sources

end StyleLinter.Lint
