import StyleLinter.Proofs.CommandLine.Clean
import StyleLinter.Proofs.Lint.Scope

/-!
# What an update rewrites

An update by a walk writes exactly the records that it should (`update_rewrites_exactly`): all that
there is to report, and of the old records those below no root or of a kind that is not reported, in
the order of their keys. **No two of these records have the same key** (`Pass.nodup_keys_records`).
Entries differ from one another since no file is checked twice, and they differ from what is kept
since an entry of a walk is in scope.

So the text depends on the set of the records alone. A second update finds the same entries, of
which the registry now exempts all, and it keeps the same records out of a list that is sorted: it
comes to the same set, and it writes the same text.
-/

namespace StyleLinter.CommandLine

variable {s : Settings} {host host' : Host}

namespace Pass

variable (p : Pass s host)

/-- The files of a pass are the source files of its run. -/
theorem sources_eq :
    p.run.sources host p.roots (.program Discovery.programName) = .ok p.paths :=
  (sources_run p.config_eq p.registry p.names_eq).trans p.paths_eq

theorem tracked_run (hwalk : s.tracked = false) : p.run.config.tracked = false :=
  (Settings.spec_of_config p.config_eq).2.1.trans hwalk

theorem isNormal_of_mem_paths : ∀ q ∈ p.paths, q.IsNormal := fun _ hq ↦
  Lint.isNormal_of_mem_sources (Path.forall_isNormal_ofText p.names) p.sources_eq hq

/-- **An entry of a walk is in scope.** -/
theorem inScope_of_mem_entries (hwalk : s.tracked = false) {v : Violation} (hv : v ∈ p.entries) :
    Lint.inScope p.config p.roots v.toRecord = true :=
  Lint.inScope_of_mem_reported (p.tracked_run hwalk) p.sources_eq p.reported_eq hv

theorem nodup_keys_entries : (p.entries.map (·.key)).Nodup :=
  Lint.nodup_keys_reported p.isNormal_of_mem_paths (Lint.nodup_sources p.sources_eq) p.reported_eq

/-- **No two records of an update have the same key.** -/
theorem nodup_keys_records (hwalk : s.tracked = false) : (p.records.map (·.key)).Nodup := by
  have hkept : (p.kept.map (·.key)).Nodup := (List.filter_sublist.map _).nodup p.registry.nodup
  have hall : ((p.result.all.map (·.toRecord)).map (·.key)).Nodup := by
    rw [List.map_map]
    exact ((p.all_perm.map _).nodup_iff).mpr p.nodup_keys_entries
  rw [records, savedRecords, List.map_append, List.nodup_append]
  refine ⟨hkept, hall, fun k hk k' hk' he ↦ ?_⟩
  obtain ⟨r, hr, rfl⟩ := List.mem_map.mp hk
  obtain ⟨r', hr', rfl⟩ := List.mem_map.mp hk'
  obtain ⟨v, hv, rfl⟩ := List.mem_map.mp hr'
  -- the scope of a record depends on its key, and one of the two is in scope
  have hin := p.inScope_of_mem_entries hwalk (p.all_perm.mem_iff.mp hv)
  have hout := (p.mem_kept_iff.mp hr).2
  rw [Lint.inScope, he] at hout
  cases hin.symm.trans hout

theorem length_records : p.records.length = p.entries.length + p.kept.length := by
  rw [records, savedRecords, List.length_append, List.length_map, p.all_perm.length_eq,
    Nat.add_comm]
  rfl

/-- The records that are in the list after an update, in their order. -/
theorem records_registryAfter (hwalk : s.tracked = false) :
    p.registryAfter.records = Record.sorted p.records := by
  show Record.sorted (ExceptionList.lastOfEach p.records) = _
  rw [ExceptionList.lastOfEach_eq_self (p.nodup_keys_records hwalk)]

/-- **Of the list after an update the same records are kept.** -/
theorem outOfScope_registryAfter (hwalk : s.tracked = false) :
    (Lint.outOfScope p.config p.roots p.registryAfter).Perm p.kept := by
  have hkept : p.kept.filter (!Lint.inScope p.config p.roots ·) = p.kept :=
    List.filter_eq_self.mpr fun r hr ↦ by rw [(p.mem_kept_iff.mp hr).2]; rfl
  have hall : (p.result.all.map (·.toRecord)).filter (!Lint.inScope p.config p.roots ·) = [] := by
    refine List.filter_eq_nil_iff.mpr fun r hr ↦ ?_
    obtain ⟨v, hv, rfl⟩ := List.mem_map.mp hr
    rw [p.inScope_of_mem_entries hwalk (p.all_perm.mem_iff.mp hv)]
    exact Bool.false_ne_true
  have hfilter : p.records.filter (!Lint.inScope p.config p.roots ·) = p.kept := by
    rw [records, savedRecords, List.filter_append, hall, List.append_nil]
    exact hkept
  rw [Lint.outOfScope, p.records_registryAfter hwalk, ← hfilter]
  exact (Record.sorted_perm _).filter _

/-- A second update of undisturbed files writes the same text. -/
theorem render_savedRecords (hwalk : s.tracked = false) (n : Nat) :
    ExceptionList.render (savedRecords (s.run p.config p.registryAfter) p.roots
      ((s.run p.config p.registryAfter).split n p.entries)) = ExceptionList.render p.records := by
  have hall := (Lint.all_split_perm (s.run p.config p.registryAfter) n p.entries).trans
    p.all_perm.symm
  have hperm := (p.outOfScope_registryAfter hwalk).append (hall.map (·.toRecord))
  exact (ExceptionList.render_eq_of_perm hperm.symm (p.nodup_keys_records hwalk)).symm

/-- **A second update leaves the list as it is**, in whatever way it ends. -/
theorem contents?_second_update (hupdate : s.update = true) (hwalk : s.tracked = false)
    (hlistable : ∀ r ∈ p.records, r.IsListable) (hsame : Undisturbed s host host')
    (hc : host'.disk.contents? s.list =
      some (Utf8.encode (ExceptionList.render p.records))) (verbose : Bool) :
    (CommandLine.run host' ⟨verbose, .lint, s⟩).host.disk.contents? s.list =
      some (Utf8.encode (ExceptionList.render p.records)) := by
  rw [run_lint verbose p.config_eq]
  show (lint s p.config host').1.disk.contents? s.list = _
  cases hover : (overRoots s p.config host').outcome with
  | error f =>
    rw [lint_of_error hover]
    exact hc
  | ok steps =>
    obtain ⟨run', roots, result⟩ := steps
    rw [(lint_of_update hover hupdate).1]
    obtain ⟨registry, names, paths, vss, hregistry, hnames, hsources, rfl, rfl, hvss, rfl⟩ :=
      (overRoots_eq_ok_iff p.config_eq).mp hover
    -- the second update works with the list of the first, and finds what the first found
    rw [Registry.ofFileIfThere_of_contents? hc] at hregistry
    have hafter := Registry.ofFile_of_rendered hlistable hc (Registry.not_denied_of_ofFile hregistry)
    obtain rfl : registry = p.registryAfter := Except.ok.inj (hregistry.symm.trans hafter)
    obtain rfl : p.names = names :=
      Except.ok.inj ((hsame.roots.trans p.names_eq).symm.trans hnames)
    obtain rfl : p.paths = paths :=
      Except.ok.inj ((hsame.files.trans p.paths_eq).symm.trans hsources)
    obtain rfl : p.found = vss :=
      Except.ok.inj ((mapM_inFile_of_undisturbed hsame p p.registryAfter).symm.trans hvss)
    exact contents?_saveList hc (congrArg Utf8.encode (p.render_savedRecords hwalk p.paths.length))

end Pass

end StyleLinter.CommandLine
