import StyleLinter.Proofs.CommandLine.Clean

/-!
# What a command leaves as it is

An update writes one file, and it writes it last: whatever can fail fails before, except for the
message about the list. So **an update that does not end well has touched no file**, and one that
ends well has touched the list alone (`update_is_all_or_nothing`). The directories that the list is
to be in are made before the list is written, so they can be left behind.

The message is marked-up text, and it is about the path of the list. A bracket in this path can make
it fail, after the list has been written; without one it does not (`saveList_cases`).
-/

namespace StyleLinter.CommandLine

variable {s : Settings} {host : Host}

/-! ### Updates -/

/-- **Saving the list makes directories, and then it writes the list and ends well, or fails.** -/
theorem saveList_cases (hpath : '[' ∉ s.list.toText) (host : Host) (run : Lint) (roots : List Path)
    (r : Result) : ∃ disk, host.disk.MakesWay disk s.list.parent ∧
      ((∃ f, saveList s host run roots r = (host.withDisk disk, .error f)) ∨
        ∃ contents disk' err, disk.write s.list contents = .ok disk' ∧
          saveList s host run roots r = (host.withDisk disk', .ok (.exit 0 [] err))) := by
  unfold saveList
  dsimp only
  obtain ⟨disk, hway, ⟨f, hsave⟩ | ⟨t, disk', -, hwrite, hsave⟩⟩ := save_cases host s.list
    (ExceptionList.write (Lint.outOfScope run.config roots run.registry ++ r.all.map (·.toRecord)))
  · refine ⟨disk, hway, .inl ⟨f, ?_⟩⟩
    rw [hsave]
  · obtain ⟨err, herr⟩ := announcement_of_no_bracket (no_bracket_savedMessage hpath r.all.length
      (Lint.outOfScope run.config roots run.registry).length)
    refine ⟨disk, hway, .inr ⟨_, disk', err, hwrite, ?_⟩⟩
    rw [hsave]
    exact Prod.ext rfl (map_eq_ok_iff.mpr ⟨err, herr, rfl⟩)

/-- **How an update ends**: it has made directories at most, or has written the list after that. -/
theorem update_cases (host : Host) (verbose : Bool) (hupdate : s.update = true)
    (hpath : '[' ∉ s.list.toText) :
    ∃ disk, host.disk.MakesWay disk s.list.parent ∧
      ((run host ⟨verbose, .lint, s⟩).host = host.withDisk disk ∧
          (∀ out err, (run host ⟨verbose, .lint, s⟩).ending ≠ .exit 0 out err) ∨
        ∃ contents disk' err, disk.write s.list contents = .ok disk' ∧
          (run host ⟨verbose, .lint, s⟩).host = host.withDisk disk' ∧
          (run host ⟨verbose, .lint, s⟩).ending = .exit 0 [] err) := by
  cases hconfig : s.config with
  | error i =>
    have hrun : run host ⟨verbose, .lint, s⟩ = ⟨host, [], .refused (some i.message)⟩ := by
      simp only [run, hconfig]
    rw [hrun]
    refine ⟨host.disk, .refl _ _, .inl ⟨rfl, fun out err h ↦ ?_⟩⟩
    cases h
  | ok config =>
    rw [run_lint verbose hconfig]
    cases hover : (overRoots s config host).outcome with
    | error f =>
      have hlint : (lint s config host).2.outcome = .error f := by
        simp only [lint, hover]
      exact ⟨host.disk, .refl _ _, .inl ⟨lint_of_error hover, ended_of_error hlint⟩⟩
    | ok steps =>
      obtain ⟨run', roots, result⟩ := steps
      obtain ⟨hhost, houtcome⟩ := lint_of_update hover hupdate
      obtain ⟨disk, hway, ⟨f, hsave⟩ | ⟨contents, disk', err, hwrite, hsave⟩⟩ :=
        saveList_cases hpath host run' roots result
      · rw [hsave] at hhost houtcome
        exact ⟨disk, hway, .inl ⟨hhost, ended_of_error houtcome⟩⟩
      · rw [hsave] at hhost houtcome
        exact ⟨disk, hway, .inr ⟨contents, disk', err, hwrite, hhost, ended_of_outcome houtcome⟩⟩

/-! ### Checks and audits -/

theorem host_of_check (verbose : Bool) (hupdate : s.update = false) :
    (run host ⟨verbose, .lint, s⟩).host = host := by
  cases hconfig : s.config with
  | error i => simp only [run, hconfig]
  | ok config =>
    rw [run_lint verbose hconfig]
    cases hover : (overRoots s config host).outcome with
    | error f => exact lint_of_error hover
    | ok steps => exact (lint_of_report hover hupdate).1

theorem host_of_audit (host : Host) (verbose : Bool) (s : Settings) :
    (run host ⟨verbose, .audit, s⟩).host = host := by
  cases hconfig : s.config with
  | error i => simp only [run, hconfig]
  | ok config =>
    rw [run_audit verbose hconfig]
    rfl

theorem spot_sampleHost (list : Bytes) : (sampleHost list).disk.spot sampleUpdate.list =
    .ok ⟨["scripts", "style-exceptions.txt"], 0⟩ := by cbv

end StyleLinter.CommandLine
