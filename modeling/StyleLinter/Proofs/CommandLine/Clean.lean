import StyleLinter.Proofs.CommandLine.Gate
import StyleLinter.Proofs.CommandLine.Update
import StyleLinter.Proofs.Lint.Scope

/-!
# Updates lead to a clean state

After an update that ends well, a check of the same files passes, and an audit over all kinds finds
nothing stale (`update_leads_to_clean_state`). The check passes since **every key that was found is
in the list**; nothing is stale since what the list has besides these is out of scope, and an audit
does not look there.

The list has to be read for this, and that is the only thing an update does not need: an update
writes a list that it could not read, if there is a way to it that does not exist before the update
makes a directory on it. So that reading the list is not denied is a condition.
-/

namespace StyleLinter.CommandLine

open Discovery (Search walkRoot walk_eq)

variable {s : Settings} {host host' : Host}

/-- A check in the plain form that updates nothing. -/
def Settings.forCheck (s : Settings) : Settings := { s with update := false, format := "plain" }

/-- An audit of the same list over the same files. -/
def Settings.forAudit (s : Settings) : Settings where
  roots := s.roots
  workspace := s.workspace
  exceptions := s.exceptions
  tracked := s.tracked
  extension := s.extension
  lineLimit := s.lineLimit

theorem Settings.config_forAudit (h : s.kinds = []) : s.forAudit.config = s.config := by
  rw [Settings.config, Settings.config, h]
  rfl

theorem report_of_new_eq_nil {r : Result} (hformat : s.format = "plain") (h : r.new = []) :
    ∃ err, report s r = .ok (.exit 0 [] err) := by
  refine ⟨Report.Plain.summary r, ?_⟩
  unfold report
  dsimp only
  rw [if_pos hformat, h, List.all_nil, if_pos rfl, Result.passed, h, Report.Plain.findings, h]
  rfl

/-- An audit prints what is stale. -/
theorem audit_of_stale {config : Config} {registry : Registry} {names : List Text}
    {stale : List Record}
    (hregistry : (Registry.ofFileIfThere host s.list s.exceptions.isSome).outcome = .ok registry)
    (hnames : (s.allRoots host).outcome = .ok names)
    (hstale : ((s.run config registry).audit host (names.map Path.ofText)).outcome = .ok stale) :
    (audit s config host).outcome =
      .ok (printed (if stale.isEmpty then 0 else 1) (stale.map (·.toText))) := by
  unfold audit
  refine Attempt.outcome_bind_eq_ok_iff.mpr ⟨registry, hregistry, ?_⟩
  refine Attempt.outcome_bind_eq_ok_iff.mpr ⟨names, hnames, ?_⟩
  exact Attempt.outcome_bind_eq_ok_iff.mpr ⟨stale, hstale, rfl⟩

/-! ### The registry after an update -/

namespace Pass

variable (p : Pass s host)

/-- The registry of the list that an update writes. -/
def registryAfter : Registry :=
  ⟨Record.sorted (ExceptionList.lastOfEach p.records),
    Record.nodup_keys_sorted (ExceptionList.nodup_keys_lastOfEach p.records)⟩

theorem mem_records_of_mem_registryAfter {r : Record} (h : r ∈ p.registryAfter.records) :
    r ∈ p.records :=
  ExceptionList.mem_of_mem_sorted_lastOfEach h

/-- **What was found is exempt afterwards.** -/
theorem exempts_registryAfter {v : Violation} (h : v ∈ p.entries) :
    p.registryAfter.exempts v = true := by
  obtain ⟨r, hr, he⟩ :=
    ExceptionList.exists_mem_lastOfEach (p.mem_records_iff.mpr (.inr ⟨v, h, rfl⟩))
  exact List.any_eq_true.mpr ⟨r, Record.mem_sorted.mpr hr, decide_eq_true he⟩

/-- **What was not found is out of scope afterwards.** -/
theorem not_inScope_of_mem_registryAfter {r : Record} (h : r ∈ p.registryAfter.records)
    (hstale : ∀ v ∈ p.entries, v.key ≠ r.key) : Lint.inScope p.config p.roots r = false := by
  rcases p.mem_records_iff.mp (p.mem_records_of_mem_registryAfter h) with hkept | ⟨v, hv, rfl⟩
  · exact (p.mem_kept_iff.mp hkept).2
  · exact absurd rfl (hstale v hv)

theorem new_split_registryAfter (n : Nat) :
    ((s.run p.config p.registryAfter).split n p.entries).new = [] := by
  refine List.filter_eq_nil_iff.mpr fun v hv ↦ ?_
  rw [Bool.not_eq_true, Bool.not_eq_false']
  exact p.exempts_registryAfter hv

theorem stale_registryAfter (n : Nat) :
    (p.registryAfter.stale ((s.run p.config p.registryAfter).split n p.entries).all).filter
      (Lint.inScope p.config p.roots) = [] := by
  refine List.filter_eq_nil_iff.mpr fun r hr ↦ ?_
  obtain ⟨hmem, hstale⟩ := Registry.mem_stale_iff.mp hr
  rw [p.not_inScope_of_mem_registryAfter hmem fun v hv ↦
    hstale v ((Lint.all_split_perm _ _ _).mem_iff.mpr hv)]
  exact Bool.false_ne_true

end Pass

/-- An update of the sample. -/
def sampleUpdate : Settings := { sampleSettings with update := true }

/-- The steps of an update of the sample. -/
def samplePass : Pass sampleUpdate listedHost where
  config := sampleConfig
  registry := sampleRegistry
  names := ["A"]
  paths := [samplePath]
  found := [[sampleFinding .header, sampleFinding .documentation]]
  config_eq := config_sampleSettings
  registry_eq := registry_sampleHost
  names_eq := rfl
  paths_eq := sources_sampleHost _
  found_eq := mapM_eq_ok_iff.mpr (.cons (inFile_sampleHost _ sampleRegistry) .nil)

/-- The sample after an update. -/
def updatedHost : Host := sampleHost (Utf8.encode (ExceptionList.render samplePass.records))

theorem save_sampleHost (old : Bytes) (text : Text) :
    save (sampleHost old) sampleUpdate.list (.ok text) =
      (sampleHost (Utf8.encode text), .ok ()) := by
  have hmake : (sampleHost old).disk.makeDirectories sampleUpdate.list.parent =
      ((sampleHost old).disk, .ok ()) := by cbv
  have hwrite : (sampleHost old).disk.write sampleUpdate.list (Utf8.encode text) =
      .ok (sampleHost (Utf8.encode text)).disk := by
    generalize Utf8.encode text = new
    cbv
  unfold save
  rw [hmake]
  simp only [hwrite]
  rfl

theorem run_sampleUpdate : ∃ err, (run listedHost ⟨false, .lint, sampleUpdate⟩).host = updatedHost ∧
    (run listedHost ⟨false, .lint, sampleUpdate⟩).ending = .exit 0 [] err := by
  have hwrite : ExceptionList.write samplePass.records =
      .ok (ExceptionList.render samplePass.records) := by
    refine ExceptionList.write_eq_ok_iff.mpr ⟨?_, rfl⟩
    show ∀ r ∈ [(sampleFinding .documentation).toRecord, (sampleFinding .header).toRecord], _
    decide
  have hpath : '[' ∉ sampleUpdate.list.toText := by decide
  obtain ⟨err, herr⟩ := announcement_of_no_bracket (no_bracket_savedMessage hpath
    samplePass.result.all.length samplePass.kept.length)
  refine ⟨err, update_of_pass samplePass false rfl ?_ herr⟩
  rw [hwrite]
  exact save_sampleHost _ _

theorem undisturbed_sampleHost (old new : Bytes) :
    Undisturbed sampleUpdate (sampleHost old) (sampleHost new) where
  roots := rfl
  files := (sources_sampleHost new).trans (sources_sampleHost old).symm
  contents paths hpaths q hq := by
    have hread (list : Bytes) : (sampleHost list).disk.read (Path.here / samplePath) =
        .ok (Utf8.encode "x\n") := by cbv
    obtain rfl := Except.ok.inj ((sources_sampleHost old).symm.trans hpaths)
    obtain rfl := List.mem_singleton.mp hq
    exact (hread new).trans (hread old).symm

theorem isListable_sampleHost (list : Bytes) : ∀ paths,
    sampleUpdate.sources (sampleHost list) = .ok paths →
      ∀ q ∈ paths, ExceptionList.IsListable q.toText := by
  intro paths hpaths q hq
  obtain rfl := Except.ok.inj ((sources_sampleHost list).symm.trans hpaths)
  obtain rfl := List.mem_singleton.mp hq
  decide

/-- A workspace whose list may be written and not read. There is a directory on the way to the list
that does not exist. -/
def lockedHost : Host where
  disk :=
    { tree := ((Files.Tree.empty.put ["sub"] (.directory {})).put ["sub", "A"] (.directory {})).put
        ["sub", "list"] (.file { read := false } [])
      current := [] }
  git := none

/-- The same, once the directory has been made. -/
def lockedHostAfter : Host where
  disk :=
    { tree := (((Files.Tree.empty.put ["sub"] (.directory {})).put ["sub", "A"] (.directory {})).put
        ["sub", "new"] (.directory {})).put ["sub", "list"] (.file { read := false } [])
      current := [] }
  git := none

/-- An update of the list. -/
def lockedSettings : Settings where
  roots := ["A"]
  workspace := ⟨0, ["sub"]⟩
  exceptions := some ⟨0, ["new", "..", "list"]⟩
  update := true

theorem sources_lockedHost : lockedSettings.sources lockedHost = .ok [] := by
  refine Settings.sources_eq_ok_iff.mpr ⟨["A"], [[]], rfl, .cons ?_ .nil, rfl⟩
  simp only [Search.files, Search.candidates, walkRoot, walk_eq, Attempt.outcome_bind]
  cbv

theorem sources_lockedHostAfter : lockedSettings.sources lockedHostAfter = .ok [] := by
  refine Settings.sources_eq_ok_iff.mpr ⟨["A"], [[]], rfl, .cons ?_ .nil, rfl⟩
  simp only [Search.files, Search.candidates, walkRoot, walk_eq, Attempt.outcome_bind]
  cbv

/-- The steps of the update, which finds no list. -/
def lockedPass : Pass lockedSettings lockedHost where
  config := sampleConfig
  registry := Registry.empty
  names := ["A"]
  paths := []
  found := []
  config_eq := rfl
  registry_eq := by cbv
  names_eq := rfl
  paths_eq := sources_lockedHost
  found_eq := rfl

theorem save_lockedHost :
    save lockedHost lockedSettings.list (ExceptionList.write lockedPass.records) =
      (lockedHostAfter, .ok ()) := by
  have htext : ExceptionList.write lockedPass.records = .ok [] := by
    refine ExceptionList.write_eq_ok_iff.mpr ⟨nofun, ?_⟩
    show [] = ((List.mergeSort [] _).flatMap _ : Text)
    rw [List.mergeSort_nil]
    rfl
  have hmake : lockedHost.disk.makeDirectories lockedSettings.list.parent =
      (lockedHost.disk.withTree (lockedHost.disk.tree.put ["sub", "new"] (.directory {})),
        .ok ()) := by cbv
  have hwrite : (lockedHost.disk.withTree
      (lockedHost.disk.tree.put ["sub", "new"] (.directory {}))).write lockedSettings.list [] =
        .ok lockedHostAfter.disk := by cbv
  rw [htext]
  unfold save
  rw [hmake]
  simp only [Utf8.encode, List.flatMap_nil, hwrite]
  rfl

theorem run_lockedSettings :
    ∃ err, (run lockedHost ⟨false, .lint, lockedSettings⟩).host = lockedHostAfter ∧
      (run lockedHost ⟨false, .lint, lockedSettings⟩).ending = .exit 0 [] err := by
  have hpath : '[' ∉ lockedSettings.list.toText := by decide
  obtain ⟨err, herr⟩ := announcement_of_no_bracket (no_bracket_savedMessage hpath
    lockedPass.result.all.length lockedPass.kept.length)
  exact ⟨err, update_of_pass lockedPass false rfl save_lockedHost herr⟩

/-- Now there is a list, and it cannot be read. -/
theorem overRoots_lockedHostAfter :
    (overRoots lockedSettings.forCheck sampleConfig lockedHostAfter).outcome =
      .error (.load lockedSettings.list .denied) := by
  have hregistry : (Registry.ofFileIfThere lockedHostAfter lockedSettings.forCheck.list true).outcome =
      .error (.load lockedSettings.list .denied) := by cbv
  unfold overRoots
  rw [Attempt.outcome_bind]
  exact congrArg (· >>= _) hregistry

/-- A command that fails does not end well. -/
theorem ended_of_error {expected : Failure → Bool} {a : Attempt Ending} {f : Failure}
    (h : a.outcome = .error f) (out err : Text) : ended expected a ≠ .exit 0 out err := by
  unfold ended
  rw [h]
  dsimp only
  split
  · split <;> nofun
  · nofun

end StyleLinter.CommandLine
