import StyleLinter.Proofs.Lint.Standing

/-!
# Findings and their keys

The registry, the report and the exception list tell findings apart by file, line and kind. **No two
findings of a run agree in all three** (`nodup_keys_all`). Three things come together here. A
checker reports a kind once on a line at most, also where several strings are forbidden that begin
the line. No two checkers report the same kind. And no file is checked twice, however the roots lie
in one another and however often a lister names it.

So a list of the findings loses none of them, although of several records with one key it keeps the
last only.
-/

namespace StyleLinter.Lint

open Check (Checker)

variable {run : Lint} {host : Host} {lister : Discovery.Lister} {roots paths : List Path}
  {result : Result}

/-! ### Checkers -/

/-- **A checker reports a kind at most once on a line.** -/
theorem nodup_kinds_findings (checker : Checker) (config : Config) (lines : List Text) :
    ((checker.findings config lines).map fun f ↦ (f.line, f.rule.tag)).Nodup := by
  have hmarks := checker.nodup_findings config lines
  rw [List.Nodup, List.pairwise_map] at hmarks ⊢
  refine hmarks.imp fun hne he ↦ hne ?_
  obtain ⟨hline, hkind⟩ := Prod.mk.inj he
  exact Prod.ext hline (Rule.tag_injective hkind)

/-- **No two checkers report the same kind**, be it in different files. -/
theorem pairwise_kinds_all (config : Config) :
    (Checker.all config).Pairwise fun a b ↦ ∀ lines, ∀ f ∈ a.findings config lines,
      ∀ lines', ∀ g ∈ b.findings config lines', f.rule.tag ≠ g.rule.tag := by
  refine (Checker.pairwise_rules_all config).imp fun hrules lines f hf lines' g hg he ↦ ?_
  have hf' := Checker.rule_mem_of_mem_findings hf
  have hg' := Checker.rule_mem_of_mem_findings hg
  exact hrules _ hf' (Rule.tag_injective he ▸ hg')

/-! ### Runs -/

/-- No two source files of normal roots have the same path. -/
theorem nodup_toText_sources (hroots : ∀ root ∈ roots, root.IsNormal)
    (h : run.sources host roots lister = .ok paths) : (paths.map (·.toText)).Nodup :=
  Path.nodup_toText (fun _ hp ↦ isNormal_of_mem_sources hroots h hp) (nodup_sources h)

/-- **No two findings of a run have the same key.** -/
theorem nodup_keys_all (hroots : ∀ root ∈ roots, root.IsNormal)
    (h : (run.overRoots host roots lister).outcome = .ok result) :
    (result.all.map (·.key)).Nodup := by
  obtain ⟨paths, vss, hpaths, hvss, rfl⟩ := overRoots_eq_ok_iff.mp h
  have hkeys := nodup_keys_reported (fun _ hp ↦ isNormal_of_mem_sources hroots hpaths hp)
    (nodup_sources hpaths) (reported_of_mapM_inFile hvss)
  exact ((all_split_perm run _ _).map _).nodup_iff.mpr hkeys

/-- **Findings are told apart by their keys.** Whatever the tree, the roots, the configuration and
the registry are, no two of the findings of a run that ends well have the same file, line and kind.
No checker reports a kind twice on one line, no two checkers report the same kind, and the run
checks different files, each once. So a list of the findings has one line for each of them, in the
order of their keys. -/
theorem findings_have_distinct_keys (run : Lint) (host : Host) (lister : Discovery.Lister)
    {roots : List Text} {result : Result}
    (h : (run.overRoots host (roots.map Path.ofText) lister).outcome = .ok result) :
    (result.all.map (·.key)).Nodup ∧
    (∀ (checker : Checker) lines,
      ((checker.findings run.config lines).map fun f ↦ (f.line, f.rule.tag)).Nodup) ∧
    (Checker.all run.config).Pairwise (fun a b ↦ ∀ lines, ∀ f ∈ a.findings run.config lines,
      ∀ lines', ∀ g ∈ b.findings run.config lines', f.rule.tag ≠ g.rule.tag) ∧
    (∃ paths vss, run.sources host (roots.map Path.ofText) lister = .ok paths ∧
      (paths.map (·.toText)).Nodup ∧
      paths.mapM (run.inFile host (Checker.active run.config)) = .ok vss ∧
      result = run.split paths.length vss.flatten) ∧
    ∃ listed : List Record, listed.Perm (result.all.map (·.toRecord)) ∧
      listed.Pairwise Record.Precedes ∧
      ∀ text, ExceptionList.write (result.all.map (·.toRecord)) = .ok text ↔
        (∀ v ∈ result.all, v.isWritable = true) ∧
          text = listed.flatMap fun r ↦ r.toText ++ ['\n'] := by
  have hroots := Path.forall_isNormal_ofText roots
  have hkeys := nodup_keys_all hroots h
  have hrecords : ((result.all.map (·.toRecord)).map (·.key)).Nodup := by rwa [List.map_map]
  obtain ⟨paths, vss, hpaths, hvss, hresult⟩ := overRoots_eq_ok_iff.mp h
  obtain ⟨listed, hperm, hsorted, hwrite⟩ := ExceptionList.exists_lines_of_write hrecords
  refine ⟨hkeys, fun checker ↦ nodup_kinds_findings checker run.config,
    pairwise_kinds_all run.config, ⟨paths, vss, hpaths, nodup_toText_sources hroots hpaths, hvss,
    hresult⟩, listed, hperm, hsorted, fun text ↦ ?_⟩
  rw [hwrite text, List.forall_mem_map]

/-- **The library in two overlapping roots**: its four findings have different keys, and a list of
them has four lines. -/
theorem findings_have_distinct_keys_library :
    ((libraryRun libraryRegistry).overRoots libraryHost (spelledRoots.map Path.ofText)).outcome =
      .ok ⟨newFindings, [outerFinding .header], 2⟩ ∧
    ((newFindings ++ [outerFinding .header]).map (·.key)).Nodup ∧
    ∃ listed : List Record, listed.length = 4 ∧
      ExceptionList.write ((newFindings ++ [outerFinding .header]).map (·.toRecord)) =
        .ok (listed.flatMap fun r ↦ r.toText ++ ['\n']) := by
  obtain ⟨hkeys, -, -, -, listed, hperm, -, hwrite⟩ := findings_have_distinct_keys
    (libraryRun libraryRegistry) libraryHost (.program Discovery.programName)
    overRoots_libraryRegistry
  have hwritable : ∀ v ∈ newFindings ++ [outerFinding .header], v.isWritable = true := by decide
  exact ⟨overRoots_libraryRegistry, hkeys, listed, hperm.length_eq, (hwrite _).mpr ⟨hwritable, rfl⟩⟩

end StyleLinter.Lint
