import StyleLinter.Proofs.CommandLine.Rewriting
import StyleLinter.Proofs.ExceptionList.Appending

/-!
# Reports that are put into the list

A check in the plain form prints its findings in the form of the exception list, so that they can be
accepted by appending what it printed. This works whatever the list was, as long as the first of the
new lines does not run into its last one (`report_can_be_appended`).

The longer list can be read since **no two entries have the same key** and those that are printed
have no record yet, so that no key comes to occur twice (`Pass.nodup_keys_appended`). And the next
check passes since every entry has a record then, an old one or a new one.
-/

namespace StyleLinter.CommandLine

variable {s : Settings} {host host' : Host}

/-! ### Checks -/

theorem isWritable_of_report {r : Result} {status : Nat} {out err : Text}
    (hformat : s.format = "plain") (h : report s r = .ok (.exit status out err)) :
    ∀ v ∈ r.new, v.isWritable = true := by
  unfold report at h
  dsimp only at h
  rw [if_pos hformat] at h
  split at h
  · next hall => exact List.all_eq_true.mp hall
  · exact absurd h nofun

theorem exit_of_saveList {run : Lint} {roots : List Path} {r : Result} {e : Ending}
    (h : (saveList s host run roots r).2 = .ok e) : ∃ err, e = .exit 0 [] err := by
  unfold saveList at h
  dsimp only at h
  split at h
  · exact absurd h nofun
  · obtain ⟨err, -, rfl⟩ := map_eq_ok_iff.mp h
    exact ⟨err, rfl⟩

/-- **A check in the plain form that does not pass** prints the entries of a pass over the files
that its registry does not accept. An update does not end in this way. -/
theorem exists_pass_of_check {verbose : Bool} {out err : Text} (hformat : s.format = "plain")
    (h : (run host ⟨verbose, .lint, s⟩).ending = .exit 1 out err)
    {bytes : Bytes} (hread : host.disk.contents? s.list = some bytes) :
    s.update = false ∧ ∃ p : Pass s host, Registry.ofFile host s.list = .ok p.registry ∧
      (∀ v ∈ unlisted p.registry p.entries, v.isWritable = true) ∧
      out = (unlisted p.registry p.entries).flatMap fun v ↦ v.toText ++ ['\n'] := by
  obtain ⟨config, hconfig⟩ := config_of_run_lint h
  rw [run_lint verbose hconfig] at h
  have hended := outcome_of_ended h (by omega)
  obtain ⟨run, roots, result, hrun⟩ := exists_result_of_lint hended
  have hupdate : s.update = false := by
    rw [Bool.eq_false_iff]
    intro hupdate
    obtain ⟨err', he⟩ := exit_of_saveList ((lint_of_update hrun hupdate).2.symm.trans hended)
    exact absurd (Ending.exit.inj he).1 (by omega)
  have hreport := (lint_of_report hrun hupdate).2.symm.trans hended
  obtain ⟨registry, names, paths, vss, hregistry, hnames, hsources, rfl, rfl, hvss, rfl⟩ :=
    (overRoots_eq_ok_iff hconfig).mp hrun
  rw [Registry.ofFileIfThere_of_contents? hread] at hregistry
  have hwritable := isWritable_of_report hformat hreport
  obtain ⟨-, hout⟩ := spec_of_report hformat hreport
  rw [new_split] at hwritable hout
  refine ⟨hupdate, ⟨config, registry, names, paths, vss, hconfig, ?_, hnames, hsources, hvss⟩,
    hregistry, hwritable, hout⟩
  rw [Registry.ofFileIfThere_of_contents? hread]
  exact hregistry

/-- **A check in the plain form passes** if no entry is without a record. -/
theorem passes_of_unlisted {config : Config} {registry : Registry} {paths : List Path}
    {found : List (List Violation)} (hformat : s.format = "plain") (hupdate : s.update = false)
    (hconfig : s.config = .ok config)
    (hregistry : (Registry.ofFileIfThere host s.list s.exceptions.isSome).outcome = .ok registry)
    (hsources : s.sources host = .ok paths)
    (hfound : paths.mapM ((s.run config registry).inFile host (Check.Checker.active config)) =
      .ok found)
    (hunlisted : unlisted registry found.flatten = []) (verbose : Bool) :
    ∃ err, (run host ⟨verbose, .lint, s⟩).ending = .exit 0 [] err := by
  obtain ⟨names, -, hnames, -, -⟩ := Settings.sources_eq_ok_iff.mp hsources
  have hrun := (overRoots_eq_ok_iff hconfig).mpr ⟨registry, names, paths, found, by
    rw [hupdate, Bool.not_false, Bool.and_true]
    exact hregistry, hnames, hsources, rfl, rfl, hfound, rfl⟩
  have hnew := (new_split (s.run config registry) paths.length found.flatten).trans hunlisted
  obtain ⟨err, hreport⟩ := report_of_new_eq_nil hformat hnew
  refine ⟨err, ?_⟩
  rw [run_lint verbose hconfig]
  exact ended_of_outcome ((lint_of_report hrun hupdate).2.trans hreport)

/-! ### The list with what was printed -/

namespace Pass

variable (p : Pass s host)

/-- The records of the entries that a pass has no record for. -/
def missing : List Record := (unlisted p.registry p.entries).map (·.toRecord)

theorem flatMap_missing : (p.missing.flatMap fun r ↦ r.toText ++ ['\n']) =
    (unlisted p.registry p.entries).flatMap fun v ↦ v.toText ++ ['\n'] := by
  rw [missing, List.flatMap_map]

/-- **No key comes to occur twice** when the missing records are added. -/
theorem nodup_keys_appended : ((p.registry.records ++ p.missing).map (·.key)).Nodup := by
  have hmissing : (p.missing.map (·.key)).Nodup := by
    rw [missing, List.map_map]
    exact (List.filter_sublist.map _).nodup p.nodup_keys_entries
  rw [List.map_append, List.nodup_append]
  refine ⟨p.registry.nodup, hmissing, fun k hk k' hk' he ↦ ?_⟩
  obtain ⟨r, hr, rfl⟩ := List.mem_map.mp hk
  obtain ⟨r', hr', rfl⟩ := List.mem_map.mp hk'
  obtain ⟨v, hv, rfl⟩ := List.mem_map.mp hr'
  exact of_decide_eq_true (List.mem_filter.mp hv).2 r hr he

/-- The registry with a record for every entry. -/
def registryAppended : Registry := ⟨p.registry.records ++ p.missing, p.nodup_keys_appended⟩

theorem unlisted_registryAppended : unlisted p.registryAppended p.entries = [] := by
  refine List.filter_eq_nil_iff.mpr fun v hv hnone ↦ ?_
  have hnone := of_decide_eq_true hnone
  refine hnone v.toRecord (List.mem_append_right _ (List.mem_map.mpr ⟨v, ?_, rfl⟩)) rfl
  exact List.mem_filter.mpr ⟨hv, decide_eq_true fun r hr ↦ hnone r (List.mem_append_left _ hr)⟩

theorem isListable_of_mem_missing (hpaths : ∀ q ∈ p.paths, ExceptionList.IsListable q.toText)
    (hwritable : ∀ v ∈ unlisted p.registry p.entries, v.isWritable = true) :
    ∀ r ∈ p.missing, r.IsListable := by
  intro r hr
  obtain ⟨v, hv, rfl⟩ := List.mem_map.mp hr
  have hentry := List.mem_of_mem_filter hv
  obtain ⟨q, hq, hpath⟩ := Lint.path_of_mem_reported p.reported_eq hentry
  exact Lint.isListable_of_mem_reported (Settings.hasNotes_of_config p.config_eq) p.reported_eq
    hentry (hpath ▸ hpaths q hq) (hwritable v hv)

end Pass

/-- **The plain report can be appended to the list.** Let a check in the plain form not pass, let
the paths of its files be such that a list can hold them, and let the text of the list be empty or
end with a line feed. Then the text followed by what was printed makes a registry, which has the
old records in front. And on any host where the list has got these bytes in addition, and where the
same files are found with the same contents, the check passes. -/
theorem report_can_be_appended {verbose : Bool} {out err text : Text}
    (hformat : s.format = "plain")
    (h : (run host ⟨verbose, .lint, s⟩).ending = .exit 1 out err)
    (hpaths : ∀ paths, s.sources host = .ok paths → ∀ q ∈ paths, ExceptionList.IsListable q.toText)
    (hlist : host.readText s.list = .ok text) (hend : text = [] ∨ text.getLast? = some '\n') :
    (∀ source, ∃ old reg, Registry.ofText text source = .ok old ∧
      Registry.ofText (text ++ out) source = .ok reg ∧ old.records <+: reg.records) ∧
    ∀ host' bytes, host.disk.read s.list = .ok bytes →
      host'.disk.read s.list = .ok (bytes ++ Utf8.encode out) →
      s.sources host' = s.sources host →
      (∀ paths, s.sources host = .ok paths → ∀ q ∈ paths,
        host'.disk.read (s.workspace / q) = host.disk.read (s.workspace / q)) →
      ∃ err', (run host' ⟨verbose, .lint, s⟩).ending = .exit 0 [] err' := by
  obtain ⟨bytes, t, hbytes, hdecode, rfl⟩ := Registry.readText_eq_ok_iff.mp hlist
  obtain ⟨hupdate, p, hregistry, hwritable, rfl⟩ :=
    exists_pass_of_check hformat h (Files.Disk.contents?_of_read hbytes)
  have hmissing := p.isListable_of_mem_missing (hpaths p.paths p.paths_eq) hwritable
  rw [← p.flatMap_missing]
  have hlast : ∀ c, (Text.unifyNewlines t).getLast? = some c → c = '\n' := by
    intro c hc
    rcases hend with hnil | hnewline
    · rw [hnil] at hc
      exact absurd hc nofun
    · exact Option.some.inj (hc.symm.trans hnewline)
  have hloaded := (Registry.ofFile_of_readText hlist).symm.trans hregistry
  -- what messages call the list does not matter
  have hparse (source : Text) :
      ExceptionList.parse (Text.unifyNewlines t) source = .ok p.registry.records :=
    mapError_eq_ok_iff.mpr (mapError_eq_ok_iff.mp (Registry.parse_of_ofText hloaded))
  have happended (source : Text) : Registry.ofText (Text.unifyNewlines t ++
      p.missing.flatMap fun r ↦ r.toText ++ ['\n']) source = .ok p.registryAppended :=
    Registry.ofText_of_parse
      (ExceptionList.parse_append (hparse source) hlast hmissing p.nodup_keys_appended) _
  refine ⟨fun source ↦ ⟨p.registry, p.registryAppended,
    Registry.ofText_of_parse (hparse source) p.registry.nodup, happended source,
    List.prefix_append _ _⟩, fun host' bytes' hbytes' hread hsources hcontents ↦ ?_⟩
  obtain rfl := Except.ok.inj (hbytes.symm.trans hbytes')
  have htext : host'.readText s.list = .ok _ := Registry.readText_eq_ok_iff.mpr
    ⟨_, _, hread, Utf8.decode_append hdecode (Utf8.decode_encode _),
      ExceptionList.unifyNewlines_append hmissing t⟩
  have hregistry' : (Registry.ofFileIfThere host' s.list s.exceptions.isSome).outcome =
      .ok p.registryAppended := by
    rw [Registry.ofFileIfThere_of_contents? (Files.Disk.contents?_of_read hread),
      Registry.ofFile_of_readText htext]
    exact happended _
  exact passes_of_unlisted hformat hupdate p.config_eq hregistry' (hsources.trans p.paths_eq)
    (p.mapM_inFile _ (hcontents p.paths p.paths_eq)) p.unlisted_registryAppended verbose

/-- **The report on the sample, appended to its list.** -/
theorem report_can_be_appended_sample : ∃ out err,
    (run listedHost ⟨false, .lint, sampleSettings⟩).ending = .exit 1 out err ∧
      ∃ err', (run (sampleHost (Utf8.encode (ExceptionList.render sampleRegistry.records) ++
        Utf8.encode out)) ⟨false, .lint, sampleSettings⟩).ending = .exit 0 [] err' := by
  refine ⟨_, _, ending_listedHost, ?_⟩
  have hlistable := Registry.isListable_of_ofFileIfThere registry_sampleHost
  have hlist : listedHost.readText sampleSettings.list =
      .ok (ExceptionList.render sampleRegistry.records) := Registry.readText_eq_ok_iff.mpr
    ⟨_, _, read_sampleHost _, Utf8.decode_encode _, ExceptionList.unifyNewlines_render hlistable⟩
  have hlast : (ExceptionList.render sampleRegistry.records).getLast? = some '\n' := by
    rw [ExceptionList.render_eq, show Record.sorted (ExceptionList.lastOfEach
      sampleRegistry.records) = sampleRegistry.records from List.mergeSort_singleton _]
    rfl
  obtain ⟨-, happend⟩ := report_can_be_appended rfl ending_listedHost (isListable_sampleHost _)
    hlist (.inr hlast)
  exact happend (sampleHost _) _ (read_sampleHost _) (read_sampleHost _)
    ((sources_sampleHost _).trans (sources_sampleHost _).symm) (undisturbed_sampleHost _ _).contents

end StyleLinter.CommandLine
