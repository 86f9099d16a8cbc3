import StyleLinter.CommandLine.Run
import StyleLinter.Proofs.Lint.Reported

/-!
# The steps of a checking command

The commands that check files all begin alike: a configuration is made, the exception list is
loaded, the roots are settled, and a run goes over them. `overRoots_eq_ok_iff` takes these steps
apart, with the source files of the run in the form `Settings.sources`, which **depends on the host
only through its roots and its files**. What comes after is about the result.

A command that ends with a status other than 2 has not failed on the way (`outcome_of_ended`).
-/

namespace StyleLinter.CommandLine

variable {s : Settings} {config : Config} {host : Host}

/-! ### Settings -/

/-- **A configuration has what its draft has.** -/
theorem spec_of_check {d : Config.Draft} (h : d.check = .ok config) :
    config.extension = d.extension ∧ config.tracked = d.tracked ∧ config.forbidden = d.forbidden ∧
      config.kinds = d.kinds.map Config.inOrder := by
  unfold Config.Draft.check at h
  split at h
  · split at h
    · exact absurd h nofun
    split at h
    · exact absurd h nofun
    split at h
    · split at h
      · obtain rfl := Except.ok.inj h
        exact ⟨rfl, rfl, rfl, rfl⟩
      · exact absurd h nofun
    · exact absurd h nofun
  · exact absurd h nofun

theorem Settings.spec_of_config (h : s.config = .ok config) :
    config.extension = s.extension ∧ config.tracked = s.tracked ∧
      config.forbidden = defaultForbidden ∧ (s.kinds = [] → config.kinds = none) := by
  obtain ⟨hextension, htracked, hforbidden, hkinds⟩ := spec_of_check h
  refine ⟨hextension, htracked, hforbidden, fun hnil ↦ ?_⟩
  rw [hkinds, hnil]
  rfl

theorem Settings.hasNotes_of_config (h : s.config = .ok config) : config.HasNotes := by
  intro w hw
  rw [(Settings.spec_of_config h).2.2.1] at hw
  exact isNote_of_mem_defaultForbidden w hw

/-- The run that the settings make with a registry. -/
def Settings.run (s : Settings) (config : Config) (registry : Registry) : Lint :=
  ⟨s.workspace, config, registry⟩

theorem Settings.search_run (h : s.config = .ok config) (registry : Registry) :
    (s.run config registry).search (.program Discovery.programName) = s.search := by
  obtain ⟨hextension, htracked, -, -⟩ := Settings.spec_of_config h
  rw [Lint.search, Settings.search, Settings.run, hextension, htracked]

/-! ### Source files -/

/-- The source files that the settings select, each once: root by root, and in the order of their
paths within a root. -/
def Settings.sources (s : Settings) (host : Host) : Except Failure (List Path) := do
  let names ← (s.allRoots host).outcome
  let found ← names.mapM fun name ↦ (s.search.files host (Path.ofText name)).outcome
  pure found.flatten.eraseDups

theorem Settings.sources_eq_ok_iff {paths : List Path} : s.sources host = .ok paths ↔
    ∃ names found, (s.allRoots host).outcome = .ok names ∧
      List.Forall₂ (fun name files ↦ (s.search.files host (Path.ofText name)).outcome = .ok files)
        names found ∧
      paths = found.flatten.eraseDups := by
  unfold Settings.sources
  constructor
  · intro h
    obtain ⟨names, hnames, h⟩ := bind_eq_ok_iff.mp h
    obtain ⟨found, hfound, h⟩ := bind_eq_ok_iff.mp h
    exact ⟨names, found, hnames, mapM_eq_ok_iff.mp hfound, (Except.ok.inj h).symm⟩
  · rintro ⟨names, found, hnames, hfound, rfl⟩
    exact bind_eq_ok_iff.mpr ⟨names, hnames,
      bind_eq_ok_iff.mpr ⟨found, mapM_eq_ok_iff.mpr hfound, rfl⟩⟩

/-- The run over the roots of the settings goes over their source files. -/
theorem sources_run (h : s.config = .ok config) (registry : Registry) {names : List Text}
    (hnames : (s.allRoots host).outcome = .ok names) :
    (s.run config registry).sources host (names.map Path.ofText)
      (.program Discovery.programName) = s.sources host := by
  unfold Lint.sources Settings.sources
  rw [Settings.search_run h, hnames, List.mapM_map]
  rfl

/-! ### Runs -/

/-- **The steps before a result.** -/
theorem overRoots_eq_ok_iff (hconfig : s.config = .ok config) {run : Lint} {roots : List Path}
    {result : Result} : (overRoots s config host).outcome = .ok (run, roots, result) ↔
      ∃ registry names paths vss,
        (Registry.ofFileIfThere host s.list (s.exceptions.isSome && !s.update)).outcome =
          .ok registry ∧
        (s.allRoots host).outcome = .ok names ∧ s.sources host = .ok paths ∧
        run = s.run config registry ∧ roots = names.map Path.ofText ∧
        paths.mapM (run.inFile host (Check.Checker.active config)) = .ok vss ∧
        result = run.split paths.length vss.flatten := by
  unfold overRoots
  constructor
  · intro h
    obtain ⟨registry, hregistry, h⟩ := Attempt.outcome_bind_eq_ok_iff.mp h
    obtain ⟨names, hnames, h⟩ := Attempt.outcome_bind_eq_ok_iff.mp h
    obtain ⟨result', hresult, h⟩ := Attempt.outcome_bind_eq_ok_iff.mp h
    obtain ⟨rfl, hrest⟩ := Prod.mk.inj (Except.ok.inj h)
    obtain ⟨rfl, rfl⟩ := Prod.mk.inj hrest
    obtain ⟨paths, vss, hpaths, hvss, rfl⟩ := Lint.overRoots_eq_ok_iff.mp hresult
    exact ⟨registry, names, paths, vss, hregistry, hnames,
      (sources_run hconfig registry hnames).symm.trans hpaths, rfl, rfl, hvss, rfl⟩
  · rintro ⟨registry, names, paths, vss, hregistry, hnames, hpaths, rfl, rfl, hvss, rfl⟩
    refine Attempt.outcome_bind_eq_ok_iff.mpr ⟨registry, hregistry, ?_⟩
    refine Attempt.outcome_bind_eq_ok_iff.mpr ⟨names, hnames, ?_⟩
    refine Attempt.outcome_bind_eq_ok_iff.mpr ⟨_, Lint.overRoots_eq_ok_iff.mpr
      ⟨paths, vss, (sources_run hconfig registry hnames).trans hpaths, hvss, rfl⟩, rfl⟩

/-! ### Endings -/

/-- **A command that ends with a status other than 2 has not failed.** -/
theorem outcome_of_ended {expected : Failure → Bool} {a : Attempt Ending} {status : Nat}
    {out err : Text} (h : ended expected a = .exit status out err) (hstatus : status ≠ 2) :
    a.outcome = .ok (.exit status out err) := by
  unfold ended at h
  split at h
  · next e he => rw [he, h]
  · split at h
    · split at h
      · exact absurd (Ending.exit.inj h).1.symm hstatus
      · exact absurd h nofun
    · exact absurd h nofun

theorem ended_of_outcome {expected : Failure → Bool} {a : Attempt Ending} {e : Ending}
    (h : a.outcome = .ok e) : ended expected a = e := by
  rw [ended, h]

/-- The ending of a command that checks files is that of its attempt. -/
theorem run_lint (verbose : Bool) (hconfig : s.config = .ok config) :
    run host ⟨verbose, .lint, s⟩ =
      changed (fun f ↦ f.isOwn || f.isRefusal) (lint s config host) := by
  simp only [run, hconfig]

theorem run_audit (verbose : Bool) (hconfig : s.config = .ok config) :
    run host ⟨verbose, .audit, s⟩ = unchanged host Failure.isOwn (audit s config host) := by
  simp only [run, hconfig]

theorem config_of_run_lint {verbose : Bool} {status : Nat} {out err : Text}
    (h : (run host ⟨verbose, .lint, s⟩).ending = .exit status out err) :
    ∃ config, s.config = .ok config := by
  cases hconfig : s.config with
  | ok config => exact ⟨config, rfl⟩
  | error i =>
    simp only [run, hconfig] at h
    exact absurd h nofun

/-- A check reports on its result and leaves the host as it is. -/
theorem lint_of_report {run : Lint} {roots : List Path} {result : Result}
    (hrun : (overRoots s config host).outcome = .ok (run, roots, result))
    (hupdate : s.update = false) :
    (lint s config host).1 = host ∧ (lint s config host).2.outcome = report s result := by
  unfold lint
  simp only [hrun, hupdate]
  exact ⟨rfl, rfl⟩

/-- An update saves its result. -/
theorem lint_of_update {run : Lint} {roots : List Path} {result : Result}
    (hrun : (overRoots s config host).outcome = .ok (run, roots, result))
    (hupdate : s.update = true) :
    (lint s config host).1 = (saveList s host run roots result).1 ∧
      (lint s config host).2.outcome = (saveList s host run roots result).2 := by
  unfold lint
  simp only [hrun, hupdate]
  exact ⟨rfl, rfl⟩

/-- **A command that checks files and does not fail has a result.** -/
theorem exists_result_of_lint {e : Ending} (h : (lint s config host).2.outcome = .ok e) :
    ∃ run roots result, (overRoots s config host).outcome = .ok (run, roots, result) := by
  unfold lint at h
  dsimp only at h
  split at h
  · exact absurd h nofun
  · next run roots result hrun => exact ⟨run, roots, result, hrun⟩

/-- A command without a result leaves the host as it is. -/
theorem lint_of_error {f : Failure} (h : (overRoots s config host).outcome = .error f) :
    (lint s config host).1 = host := by
  unfold lint
  simp only [h]

end StyleLinter.CommandLine
