import Mathlib
import StyleLinter.Proofs.CommandLine.Steps
import StyleLinter.Proofs.Registry.Loading

/-!
# The gate

Checking passes or fails a workspace, and **what it prints is what is wrong with it**. The statement
puts the command as a whole against what there is to report in the source files of the roots
(`Lint.reported`), which is defined without the registry and without the checkers that are active:
the entries without a record for their key are printed, one on each line, and the command passes
exactly if there are none.

Kinds that are not reported and files that occur below several roots are where a gate would let
something slip; the two are settled by `Lint.reportedAt_of_inFile` and by `Settings.sources`.
-/

namespace StyleLinter.CommandLine

open Discovery (Search)

/-- The entries that no record accepts. -/
def unlisted (registry : Registry) (vs : List Violation) : List Violation :=
  vs.filter fun v ↦ ∀ r ∈ registry.records, r.key ≠ v.key

theorem new_split (run : Lint) (n : Nat) (vs : List Violation) :
    (run.split n vs).new = unlisted run.registry vs := by
  refine List.filter_congr fun v _ ↦ ?_
  rw [Registry.exempts, Bool.eq_iff_iff]
  simp

/-- What a report in the plain form ends with. -/
theorem spec_of_report {s : Settings} {r : Result} {status : Nat} {out err : Text}
    (hformat : s.format = "plain") (h : report s r = .ok (.exit status out err)) :
    (status = 0 ↔ r.new = []) ∧ out = r.new.flatMap fun v ↦ v.toText ++ ['\n'] := by
  unfold report at h
  dsimp only at h
  rw [if_pos hformat] at h
  split at h
  · obtain ⟨hstatus, hout, -⟩ := Ending.exit.inj (Except.ok.inj h)
    have hpassed : r.passed = true ↔ r.new = [] := List.isEmpty_iff
    refine ⟨?_, hout.symm⟩
    rw [← hstatus, ← hpassed]
    split
    · next h => simp [h]
    · next h => simp [h]
  · exact absurd h nofun

/-- **The gate is exact.** Whatever the settings of a check in the plain form that updates nothing:
when it passes or fails, there is a configuration, a registry, a list of roots and a list of files
for each root, in the order of their paths, such that the check passes exactly if every entry in the
files, each file taken once, has a record with its key, and such that the entries without one are
printed, file by file and checker by checker. -/
theorem lint_gate_exact (host : Host) (verbose : Bool) (s : Settings) (hupdate : s.update = false)
    (hformat : s.format = "plain") {status : Nat} {out err : Text}
    (h : (run host ⟨verbose, .lint, s⟩).ending = .exit status out err)
    (hstatus : status = 0 ∨ status = 1) :
    ∃ config registry names found vs,
      s.config = .ok config ∧
      (Registry.ofFileIfThere host s.list s.exceptions.isSome).outcome = .ok registry ∧
      (s.allRoots host).outcome = .ok names ∧
      List.Forall₂ (fun name files ↦ Search.Ordered files ∧
        (s.search.files host (Path.ofText name)).outcome = .ok files) names found ∧
      (s.run config registry).reported host found.flatten.eraseDups = .ok vs ∧
      (status = 0 ↔ unlisted registry vs = []) ∧
      out = (unlisted registry vs).flatMap fun v ↦ v.toText ++ ['\n'] := by
  obtain ⟨config, hconfig⟩ := config_of_run_lint h
  rw [run_lint verbose hconfig] at h
  have hended := outcome_of_ended h (by omega)
  obtain ⟨run, roots, result, hrun⟩ := exists_result_of_lint hended
  have hreport := (lint_of_report hrun hupdate).2.symm.trans hended
  obtain ⟨registry, names, paths, vss, hregistry, hnames, hsources, rfl, rfl, hvss, rfl⟩ :=
    (overRoots_eq_ok_iff hconfig).mp hrun
  obtain ⟨names', found, hnames', hfound, rfl⟩ := Settings.sources_eq_ok_iff.mp hsources
  obtain rfl : names' = names := Except.ok.inj (hnames'.symm.trans hnames)
  -- what is left is about the result, which splits what was found
  obtain ⟨hstatus, hout⟩ := spec_of_report hformat hreport
  rw [new_split] at hstatus hout
  rw [hupdate, Bool.not_false, Bool.and_true] at hregistry
  refine ⟨config, registry, names', found, vss.flatten, hconfig, hregistry, hnames, ?_, ?_, hstatus,
    hout⟩
  · exact hfound.imp fun _ _ hfiles ↦ ⟨Search.ordered_of_files hfiles, hfiles⟩
  · exact Lint.reported_of_mapM_inFile hvss

/-! ### A sample -/

/-- A workspace with one source file and a list. -/
def sampleHost (list : Bytes) : Host where
  disk :=
    { tree := (((Files.Tree.empty.put ["A"] (.directory {})).put ["A", "X.lean"]
        (.file {} (Utf8.encode "x\n"))).put ["scripts"] (.directory {})).put
        ["scripts", "style-exceptions.txt"] (.file {} list)
      current := [] }
  git := none

/-- The file of the sample. -/
def samplePath : Path := ⟨0, ["A", "X.lean"]⟩

/-- A check of the root of the sample. -/
def sampleSettings : Settings := { roots := ["A"] }

/-- What a check of the sample is configured with. -/
def sampleConfig : Config where
  extension := defaultExtension
  lineLimit := 100
  fileLimit := 1500
  forbidden := defaultForbidden
  kinds := none
  tracked := false
  extension_dot := by decide
  extension_long := by decide
  lineLimit_pos := by decide
  fileLimit_pos := by decide
  forbidden_ne_nil := by decide
  kinds_isTag := nofun

theorem samplePath_ne_nil : ("A/X.lean" : Text) ≠ [] := by decide

theorem samplePath_relative : ("A/X.lean" : Text).head? ≠ some '/' := by decide

/-- A finding on the first line of the sample. -/
def sampleFinding (r : Rule) : Violation where
  key := ⟨"A/X.lean", 1, r.tag, samplePath_ne_nil, samplePath_relative, Nat.one_pos, r.isTag_tag⟩
  message := r.message
  message_ne_nil := r.message_ne_nil

theorem config_sampleSettings : sampleSettings.config = .ok sampleConfig := rfl

theorem contents?_sampleHost (list : Bytes) :
    (sampleHost list).disk.contents? sampleSettings.list = some list := by cbv

theorem read_sampleHost (list : Bytes) :
    (sampleHost list).disk.read sampleSettings.list = .ok list := by cbv

theorem sources_sampleHost (list : Bytes) :
    sampleSettings.sources (sampleHost list) = .ok [samplePath] := by
  refine Settings.sources_eq_ok_iff.mpr ⟨["A"], [[samplePath]], rfl, .cons ?_ .nil, rfl⟩
  simp only [Search.files, Search.candidates, Discovery.walkRoot, Discovery.walk_eq,
    Attempt.outcome_bind]
  cbv

theorem readLines_sampleHost (list : Bytes) :
    Lint.readLines (sampleHost list) (Path.here / samplePath) = .ok ["x\n"] := by cbv

theorem inFile_sampleHost (list : Bytes) (registry : Registry) :
    (sampleSettings.run sampleConfig registry).inFile (sampleHost list)
      (Check.Checker.active sampleConfig) samplePath =
        .ok [sampleFinding .header, sampleFinding .documentation] := by
  unfold Lint.inFile
  rw [show Lint.readLines (sampleHost list) ((sampleSettings.run sampleConfig registry).base /
    samplePath) = _ from readLines_sampleHost list]
  rfl

/-- The registry of a list that accepts one finding in the sample. -/
def sampleRegistry : Registry := ⟨[(sampleFinding .header).toRecord], List.nodup_singleton _⟩

theorem registry_sampleHost : (Registry.ofFileIfThere
    (sampleHost (Utf8.encode (ExceptionList.render sampleRegistry.records))) sampleSettings.list
      false).outcome = .ok sampleRegistry := by
  have hr : ∀ r ∈ sampleRegistry.records, r.IsListable := by
    intro r hr
    obtain rfl := List.mem_singleton.mp hr
    exact ⟨by decide, by decide, Rule.isNote_message .header, by decide⟩
  have hc := contents?_sampleHost (Utf8.encode (ExceptionList.render sampleRegistry.records))
  have hread := read_sampleHost (Utf8.encode (ExceptionList.render sampleRegistry.records))
  have hsorted : Record.sorted (ExceptionList.lastOfEach sampleRegistry.records) =
      sampleRegistry.records := List.mergeSort_singleton _
  rw [Registry.ofFileIfThere_of_contents? hc, Registry.ofFile_of_rendered hr hc (by rw [hread]; nofun)]
  simp only [hsorted]

/-- The host of the sample with a list that accepts one of its two findings. -/
def listedHost : Host := sampleHost (Utf8.encode (ExceptionList.render sampleRegistry.records))

theorem ending_listedHost : (run listedHost ⟨false, .lint, sampleSettings⟩).ending =
    .exit 1 "A/X.lean : line 1 : ERR_MOD : Module docstring missing, or too late\n"
      "FAILED: 1 new violation(s), 1 suppressed, 1 file(s) checked\n" := by
  have hrun := (overRoots_eq_ok_iff config_sampleSettings).mpr ⟨sampleRegistry, ["A"], [samplePath],
    [_], registry_sampleHost, rfl, sources_sampleHost _, rfl, rfl,
    mapM_eq_ok_iff.mpr (.cons (inFile_sampleHost _ sampleRegistry) .nil), rfl⟩
  rw [run_lint false config_sampleSettings]
  exact ended_of_outcome ((lint_of_report hrun rfl).2.trans rfl)

/-- **The gate on the sample**, which it does not let pass: the second finding is not accepted. -/
theorem lint_gate_exact_sample :
    (run listedHost ⟨false, .lint, sampleSettings⟩).ending =
        .exit 1 "A/X.lean : line 1 : ERR_MOD : Module docstring missing, or too late\n"
          "FAILED: 1 new violation(s), 1 suppressed, 1 file(s) checked\n" ∧
      ∃ registry vs, (sampleSettings.run sampleConfig registry).reported listedHost [samplePath] =
        .ok vs ∧ unlisted registry vs ≠ [] := by
  refine ⟨ending_listedHost, ?_⟩
  obtain ⟨config, registry, names, found, vs, hconfig, -, hnames, hfound, hvs, hstatus, -⟩ :=
    lint_gate_exact listedHost false sampleSettings rfl rfl ending_listedHost (.inr rfl)
  have hsources := Settings.sources_eq_ok_iff.mpr
    ⟨names, found, hnames, hfound.imp fun _ _ h ↦ h.2, rfl⟩
  rw [listedHost, sources_sampleHost] at hsources
  obtain rfl := Except.ok.inj (hconfig.symm.trans config_sampleSettings)
  rw [← Except.ok.inj hsources] at hvs
  exact ⟨registry, vs, hvs, fun hnil ↦ absurd (hstatus.mpr hnil) nofun⟩

end StyleLinter.CommandLine
