import StyleLinter.Proofs.Lint.Roots

/-!
# Where records stand

A run over roots puts every record of its registry in one of three classes (`Standing`). The record
is **out of scope** if the run does not look for what it accepts, **stale** if the run looks for it
in vain, and **live** if the run finds it. That the classes exclude one another rests on a walk
finding only what is in scope (`inScope_of_mem_all`); that there is no fourth one, on an audit going
by the same keys as the run (`exists_suppressed_iff`).

Which records a run works with shows in nothing but the split of what it finds
(`exists_split_of_overRoots`).
-/

namespace StyleLinter

theorem any_key_iff {vs : List Violation} {k : Key} :
    vs.any (·.key = k) = true ↔ ∃ v ∈ vs, v.key = k := by
  rw [List.any_eq_true]
  exact exists_congr fun v ↦ and_congr_right fun _ ↦ decide_eq_true_iff

namespace Lint

variable {run : Lint} {host : Host} {lister : Discovery.Lister} {roots : List Path}
  {result : Result} {v : Violation} {r : Record}

/-! ### Splits -/

/-- The run with other records. -/
def withRegistry (run : Lint) (registry : Registry) : Lint := { run with registry := registry }

/-- **A run with other records finds the same**, and splits it by those. -/
theorem exists_split_of_overRoots (h : (run.overRoots host roots lister).outcome = .ok result) :
    ∃ n vs, result = run.split n vs ∧ ∀ registry,
      ((run.withRegistry registry).overRoots host roots lister).outcome =
        .ok ((run.withRegistry registry).split n vs) := by
  obtain ⟨paths, vss, hpaths, hvss, rfl⟩ := overRoots_eq_ok_iff.mp h
  exact ⟨paths.length, vss.flatten, rfl, fun registry ↦
    overRoots_eq_ok_iff.mpr ⟨paths, vss, hpaths, hvss, rfl⟩⟩

theorem mem_new_iff (h : (run.overRoots host roots lister).outcome = .ok result) :
    v ∈ result.new ↔ v ∈ result.all ∧ run.registry.exempts v = false := by
  obtain ⟨n, vs, rfl, -⟩ := exists_split_of_overRoots h
  rw [(all_split_perm run n vs).mem_iff, split, List.mem_filter, Bool.not_eq_true']

theorem mem_suppressed_iff (h : (run.overRoots host roots lister).outcome = .ok result) :
    v ∈ result.suppressed ↔ v ∈ result.all ∧ run.registry.exempts v = true := by
  obtain ⟨n, vs, rfl, -⟩ := exists_split_of_overRoots h
  rw [(all_split_perm run n vs).mem_iff, split, List.mem_filter]

/-- **What a record accepts is suppressed** if it is found at all. -/
theorem exists_suppressed_iff (h : (run.overRoots host roots lister).outcome = .ok result)
    (hr : r ∈ run.registry.records) :
    (∃ v ∈ result.suppressed, v.key = r.key) ↔ ∃ v ∈ result.all, v.key = r.key := by
  constructor
  · rintro ⟨v, hv, hkey⟩
    exact ⟨v, ((mem_suppressed_iff h).mp hv).1, hkey⟩
  · rintro ⟨v, hv, hkey⟩
    have hexempt : run.registry.exempts v = true := Registry.exempts_iff.mpr ⟨r, hr, hkey.symm⟩
    exact ⟨v, (mem_suppressed_iff h).mpr ⟨hv, hexempt⟩, hkey⟩

/-! ### What an audit returns -/

/-- The records that an audit returns after a run over the roots with the result. -/
def audited (run : Lint) (roots : List Path) (result : Result) : List Record :=
  (run.registry.stale result.all).filter (inScope run.config roots)

theorem mem_audited_iff : r ∈ run.audited roots result ↔
    r ∈ run.registry.records ∧ inScope run.config roots r = true ∧
      ¬ ∃ v ∈ result.all, v.key = r.key := by
  rw [audited, List.mem_filter, Registry.mem_stale_iff, and_assoc, not_exists]
  refine and_congr_right fun _ ↦ ?_
  rw [and_comm]
  exact and_congr_right fun _ ↦ forall_congr' fun v ↦ not_and.symm

theorem audited_sublist : (run.audited roots result).Sublist run.registry.records :=
  List.filter_sublist.trans List.filter_sublist

/-- The audit of a run that ends well ends well. -/
theorem audit_of_overRoots (h : (run.overRoots host roots lister).outcome = .ok result) :
    (run.audit host roots lister).outcome = .ok (run.audited roots result) :=
  audit_eq_ok_iff.mpr ⟨result, h, rfl⟩

/-! ### Classes of records -/

/-- Where a record stands in a run over roots. -/
inductive Standing where
  /-- The run does not look for what the record accepts. -/
  | outOfScope
  /-- The run looks for it and does not find it. -/
  | stale
  /-- The run finds it, and suppresses it. -/
  | live
deriving DecidableEq

/-- The records that stand so in a run over the roots with the result, in load order. -/
def recordsThatAre (run : Lint) (roots : List Path) (result : Result) : Standing → List Record
  | .outOfScope => outOfScope run.config roots run.registry
  | .stale => run.audited roots result
  | .live => run.registry.records.filter fun r ↦ result.suppressed.any (·.key = r.key)

/-- Where a record stands, by what was found. -/
def standingOf (run : Lint) (roots : List Path) (result : Result) (r : Record) : Standing :=
  if inScope run.config roots r then
    if result.all.any (·.key = r.key) then .live else .stale
  else .outOfScope

/-- **All that a walk finds is in scope.** -/
theorem inScope_of_mem_all (hwalk : run.config.tracked = false)
    (h : (run.overRoots host roots lister).outcome = .ok result) (hv : v ∈ result.all) :
    inScope run.config roots v.toRecord = true := by
  obtain ⟨paths, vss, hpaths, hvss, rfl⟩ := overRoots_eq_ok_iff.mp h
  exact inScope_of_mem_reported hwalk hpaths (reported_of_mapM_inFile hvss)
    ((all_split_perm run _ _).mem_iff.mp hv)

/-- What has the key of a finding of a walk is in scope, since the scope depends on the key. -/
theorem inScope_of_found (hwalk : run.config.tracked = false)
    (h : (run.overRoots host roots lister).outcome = .ok result)
    (hfound : ∃ v ∈ result.all, v.key = r.key) : inScope run.config roots r = true := by
  obtain ⟨v, hv, hkey⟩ := hfound
  have hin := inScope_of_mem_all hwalk h hv
  rw [inScope, hkey] at hin
  exact hin

theorem mem_live_iff (h : (run.overRoots host roots lister).outcome = .ok result) :
    r ∈ run.recordsThatAre roots result .live ↔
      r ∈ run.registry.records ∧ ∃ v ∈ result.all, v.key = r.key := by
  rw [recordsThatAre, List.mem_filter, any_key_iff]
  exact and_congr_right fun hr ↦ exists_suppressed_iff h hr

/-- **Each of the three lists holds the records that stand so.** -/
theorem mem_recordsThatAre_iff (hwalk : run.config.tracked = false)
    (h : (run.overRoots host roots lister).outcome = .ok result) (standing : Standing) :
    r ∈ run.recordsThatAre roots result standing ↔
      r ∈ run.registry.records ∧ run.standingOf roots result r = standing := by
  have hany : result.all.any (·.key = r.key) = true ↔ ∃ v ∈ result.all, v.key = r.key := any_key_iff
  have hscope : (∃ v ∈ result.all, v.key = r.key) → inScope run.config roots r = true :=
    inScope_of_found hwalk h
  rw [standingOf]
  -- the classes are told apart by the scope first, and by what was found second
  cases standing with
  | outOfScope =>
    rw [recordsThatAre, mem_outOfScope_iff]
    grind
  | stale =>
    rw [recordsThatAre, mem_audited_iff]
    grind
  | live =>
    rw [mem_live_iff h]
    grind

/-- **The scope of a walk agrees with what it finds.** All that it finds is in scope, so none of it
has the key of a record that is out of scope. Hence the records of the registry are those that stand
in exactly one way: they are out of scope, or they are stale, as the audit says, or they are live
and have the key of a finding that is suppressed. -/
theorem scope_agrees_with_walk (run : Lint) (host : Host) (lister : Discovery.Lister)
    (hwalk : run.config.tracked = false) {roots : List Text} {result : Result}
    (h : (run.overRoots host (roots.map Path.ofText) lister).outcome = .ok result) :
    (∀ v ∈ result.all, inScope run.config (roots.map Path.ofText) v.toRecord = true) ∧
    (∀ r ∈ outOfScope run.config (roots.map Path.ofText) run.registry,
      ∀ v ∈ result.all, v.key ≠ r.key) ∧
    (run.audit host (roots.map Path.ofText) lister).outcome =
      .ok (run.recordsThatAre (roots.map Path.ofText) result .stale) ∧
    ∀ r, r ∈ run.registry.records ↔
      ∃! standing, r ∈ run.recordsThatAre (roots.map Path.ofText) result standing := by
  refine ⟨fun v hv ↦ inScope_of_mem_all hwalk h hv, fun r hr v hv hkey ↦ ?_, audit_of_overRoots h,
    fun r ↦ ?_⟩
  · have hout := (mem_outOfScope_iff.mp hr).2
    have hin := inScope_of_found hwalk h ⟨v, hv, hkey⟩
    exact absurd (hin.symm.trans hout) nofun
  · simp only [mem_recordsThatAre_iff hwalk h]
    constructor
    · intro hr
      exact ⟨_, ⟨hr, rfl⟩, fun standing hs ↦ hs.2.symm⟩
    · rintro ⟨standing, hs, -⟩
      exact hs.1

/-! ### A sample -/

/-- The record of a file that is not in the library. -/
def elsewhereRecord : Record where
  key := (onFirstLine "C/Z.lean" (by decide) (by decide) .header).key
  message := "elsewhere"

/-- A record that accepts what there is to find in the library. -/
def headerRecord : Record where
  key := (outerFinding .header).key
  message := "accepted"

/-- A record of a line that there is not. -/
def lineRecord : Record where
  key := { (outerFinding .lineLength).key with line := 2, line_pos := Nat.two_pos }
  message := "gone"

/-- The registry with the three records. -/
def libraryRegistry : Registry := ⟨[elsewhereRecord, headerRecord, lineRecord], by decide⟩

/-- A spelling of the roots of the library. -/
def spelledRoots : List Text := ["./A/", "A//B/."]

/-- What is new in the library with these records. -/
def newFindings : List Violation :=
  [outerFinding .documentation, innerFinding .header, innerFinding .documentation]

theorem overRoots_libraryRegistry :
    ((libraryRun libraryRegistry).overRoots libraryHost (spelledRoots.map Path.ofText)).outcome =
      .ok ⟨newFindings, [outerFinding .header], 2⟩ := by
  have hroots : spelledRoots.map Path.ofText = libraryRoots.map Path.ofText := by decide
  have hsplit : (libraryRun libraryRegistry).split 2 libraryFindings =
      ⟨newFindings, [outerFinding .header], 2⟩ := by decide
  rw [hroots, overRoots_libraryRun, hsplit]

/-- **The library with three records**, one of each class. -/
theorem scope_agrees_with_walk_library :
    (libraryRun libraryRegistry).config.tracked = false ∧
    ((libraryRun libraryRegistry).overRoots libraryHost (spelledRoots.map Path.ofText)).outcome =
      .ok ⟨newFindings, [outerFinding .header], 2⟩ ∧
    ((libraryRun libraryRegistry).audit libraryHost (spelledRoots.map Path.ofText)).outcome =
      .ok [lineRecord] ∧
    outOfScope libraryConfig (spelledRoots.map Path.ofText) libraryRegistry = [elsewhereRecord] ∧
    ∃! standing, headerRecord ∈ (libraryRun libraryRegistry).recordsThatAre
      (spelledRoots.map Path.ofText) ⟨newFindings, [outerFinding .header], 2⟩ standing := by
  have hwalk : (libraryRun libraryRegistry).config.tracked = false := rfl
  have h := overRoots_libraryRegistry
  obtain ⟨-, -, haudit, hstanding⟩ := scope_agrees_with_walk (libraryRun libraryRegistry) libraryHost
    (.program Discovery.programName) hwalk h
  have hstale : (libraryRun libraryRegistry).recordsThatAre (spelledRoots.map Path.ofText)
      ⟨newFindings, [outerFinding .header], 2⟩ .stale = [lineRecord] := by decide
  have hheader : headerRecord ∈ (libraryRun libraryRegistry).registry.records :=
    List.mem_cons_of_mem _ List.mem_cons_self
  exact ⟨hwalk, h, hstale ▸ haudit, by decide, (hstanding headerRecord).mp hheader⟩

end Lint

end StyleLinter
