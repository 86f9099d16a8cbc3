import StyleLinter.Proofs.Lint.Standing

/-!
# Records that can be left out

A record is **redundant** in a run if the run finds the same new violations and suppresses the same
without it. This is so exactly if nothing that is found has its key (`isRedundant_iff`), and any
number of such records can be left out at once (`overRoots_without`). When another record is left
out, what it accepted is new (`exists_new_of_without`), since no second record has its key.
-/

namespace StyleLinter

namespace Registry

variable {reg : Registry} {v : Violation} {r : Record} {rs : List Record}

/-- The registry without some of its records. -/
def without (reg : Registry) (rs : List Record) : Registry where
  records := reg.records.filter (· ∉ rs)
  nodup := (List.filter_sublist.map _).nodup reg.nodup

theorem mem_without_iff : r ∈ (reg.without rs).records ↔ r ∈ reg.records ∧ r ∉ rs := by
  rw [without, List.mem_filter, decide_eq_true_iff]

/-- Records that do not accept a finding can be left out. -/
theorem exempts_without (h : ∀ r ∈ rs, v.key ≠ r.key) :
    (reg.without rs).exempts v = reg.exempts v := by
  rw [Bool.eq_iff_iff, exempts_iff, exempts_iff]
  constructor
  · rintro ⟨r, hr, hkey⟩
    exact ⟨r, (mem_without_iff.mp hr).1, hkey⟩
  · rintro ⟨r, hr, hkey⟩
    exact ⟨r, mem_without_iff.mpr ⟨hr, fun hmem ↦ h r hmem hkey.symm⟩, hkey⟩

/-- **A record that accepts a finding is the only one that does.** -/
theorem not_exempts_without (hr : r ∈ reg.records) (hkey : v.key = r.key) :
    (reg.without [r]).exempts v = false := by
  rw [Bool.eq_false_iff, ne_eq, exempts_iff]
  rintro ⟨r', hr', hkey'⟩
  obtain ⟨hmem, hne⟩ := mem_without_iff.mp hr'
  have hsame : r' = r := List.inj_on_of_nodup_map reg.nodup hmem hr (hkey'.trans hkey)
  exact hne (List.mem_singleton.mpr hsame)

end Registry

namespace Lint

variable {run : Lint} {host : Host} {lister : Discovery.Lister} {roots : List Path}
  {result : Result} {r : Record} {rs : List Record}

/-! ### Leaving records out -/

/-- The run without some of its records. -/
def without (run : Lint) (rs : List Record) : Lint := run.withRegistry (run.registry.without rs)

/-- **Records that nothing found belongs to can be left out**, all at once. -/
theorem overRoots_without (h : (run.overRoots host roots lister).outcome = .ok result)
    (hrs : ∀ r ∈ rs, ¬ ∃ v ∈ result.all, v.key = r.key) :
    ((run.without rs).overRoots host roots lister).outcome = .ok result := by
  obtain ⟨n, vs, rfl, hsplit⟩ := exists_split_of_overRoots h
  have hexempts : ∀ v ∈ vs, (run.registry.without rs).exempts v = run.registry.exempts v := by
    intro v hv
    have hall : v ∈ (run.split n vs).all := (all_split_perm run n vs).mem_iff.mpr hv
    exact Registry.exempts_without fun r hr hkey ↦ hrs r hr ⟨v, hall, hkey⟩
  rw [without, hsplit]
  show Except.ok (⟨vs.filter (!(run.registry.without rs).exempts ·),
    vs.filter (run.registry.without rs).exempts, n⟩ : Result) = .ok (run.split n vs)
  rw [split, List.filter_congr hexempts, List.filter_congr fun v hv ↦ congrArg _ (hexempts v hv)]

/-- **What a record accepts is new when the record is left out.** -/
theorem exists_new_of_without (h : (run.overRoots host roots lister).outcome = .ok result)
    (hr : r ∈ run.registry.records) (hfound : ∃ v ∈ result.all, v.key = r.key) :
    ∃ result', ((run.without [r]).overRoots host roots lister).outcome = .ok result' ∧
      ∃ v ∈ result.suppressed, v ∈ result'.new := by
  obtain ⟨v, hv, hkey⟩ := (exists_suppressed_iff h hr).mpr hfound
  obtain ⟨n, vs, rfl, hsplit⟩ := exists_split_of_overRoots h
  refine ⟨_, hsplit _, v, hv, List.mem_filter.mpr ⟨(List.mem_filter.mp hv).1, ?_⟩⟩
  rw [Bool.not_eq_true']
  exact Registry.not_exempts_without hr hkey

/-- Does the run over the roots, which ends with the result, find the same new violations and
suppress the same without the record? -/
def IsRedundant (run : Lint) (host : Host) (roots : List Path) (lister : Discovery.Lister)
    (result : Result) (r : Record) : Prop :=
  ∃ result', ((run.without [r]).overRoots host roots lister).outcome = .ok result' ∧
    result'.new = result.new ∧ result'.suppressed = result.suppressed

/-- **A record is redundant if nothing that is found has its key**, and only then. -/
theorem isRedundant_iff (h : (run.overRoots host roots lister).outcome = .ok result)
    (hr : r ∈ run.registry.records) :
    IsRedundant run host roots lister result r ↔ ¬ ∃ v ∈ result.all, v.key = r.key := by
  constructor
  · rintro ⟨result', h', hnew, -⟩ hfound
    obtain ⟨other, hother, v, hsuppressed, hv⟩ := exists_new_of_without h hr hfound
    obtain rfl : other = result' := Except.ok.inj (hother.symm.trans h')
    -- a finding would be new and suppressed
    have hexempt := ((mem_suppressed_iff h).mp hsuppressed).2
    have hnot := ((mem_new_iff h).mp (hnew ▸ hv)).2
    exact absurd (hexempt.symm.trans hnot) nofun
  · intro hnone
    have hrs : ∀ r' ∈ [r], ¬ ∃ v ∈ result.all, v.key = r'.key := by
      intro r' hr'
      rw [List.mem_singleton.mp hr']
      exact hnone
    exact ⟨result, overRoots_without h hrs, rfl, rfl⟩

/-- Is the file of the record below one of the roots, and is its kind reported? -/
def IsInReach (config : Config) (roots : List Text) (r : Record) : Prop :=
  (∃ root ∈ roots, (Path.ofText root).toText ++ ['/'] <+: r.key.path) ∧
    config.reports r.key.kind = true

theorem inScope_iff_isInReach {config : Config} {roots : List Text} :
    inScope config (roots.map Path.ofText) r = true ↔ IsInReach config roots r := by
  rw [inScope, List.any_map, Bool.and_eq_true, List.any_eq_true, IsInReach]
  refine and_congr_left' (exists_congr fun root ↦ and_congr_right fun _ ↦ ?_)
  exact List.isPrefixOf_iff_prefix

/-- **An audit finds exactly the redundant records.** If a run over roots ends well, then so does
the audit, and it returns, in load order, the records below a root and of a reported kind that are
redundant. Without all of these the run ends with the same result. Without another record that is in
scope, something that was suppressed is new. -/
theorem audit_finds_redundant (run : Lint) (host : Host) (lister : Discovery.Lister)
    {roots : List Text} {result : Result}
    (h : (run.overRoots host (roots.map Path.ofText) lister).outcome = .ok result) :
    ∃ stale, (run.audit host (roots.map Path.ofText) lister).outcome = .ok stale ∧
      stale.Sublist run.registry.records ∧
      (∀ r, r ∈ stale ↔ r ∈ run.registry.records ∧ IsInReach run.config roots r ∧
        IsRedundant run host (roots.map Path.ofText) lister result r) ∧
      ((run.without stale).overRoots host (roots.map Path.ofText) lister).outcome = .ok result ∧
      ∀ r ∈ run.registry.records, IsInReach run.config roots r → r ∉ stale →
        ∃ result', ((run.without [r]).overRoots host (roots.map Path.ofText) lister).outcome =
            .ok result' ∧
          ∃ v ∈ result.suppressed, v ∈ result'.new := by
  refine ⟨_, audit_of_overRoots h, audited_sublist, fun r ↦ ?_,
    overRoots_without h fun r hr ↦ (mem_audited_iff.mp hr).2.2, fun r hr hreach hkept ↦ ?_⟩
  · rw [mem_audited_iff, inScope_iff_isInReach]
    exact and_congr_right fun hr ↦ and_congr_right fun _ ↦ (isRedundant_iff h hr).symm
  · have hfound : ∃ v ∈ result.all, v.key = r.key := by
      by_contra hnone
      exact hkept (mem_audited_iff.mpr ⟨hr, inScope_iff_isInReach.mpr hreach, hnone⟩)
    exact exists_new_of_without h hr hfound

/-- **The library with three records**: the record that is stale can be left out, and without the
one that is live the header is new. -/
theorem audit_finds_redundant_library :
    ((libraryRun libraryRegistry).overRoots libraryHost (spelledRoots.map Path.ofText)).outcome =
      .ok ⟨newFindings, [outerFinding .header], 2⟩ ∧
    ((libraryRun libraryRegistry).audit libraryHost (spelledRoots.map Path.ofText)).outcome =
      .ok [lineRecord] ∧
    (((libraryRun libraryRegistry).without [lineRecord]).overRoots libraryHost
      (spelledRoots.map Path.ofText)).outcome = .ok ⟨newFindings, [outerFinding .header], 2⟩ ∧
    ∃ result', (((libraryRun libraryRegistry).without [headerRecord]).overRoots libraryHost
        (spelledRoots.map Path.ofText)).outcome = .ok result' ∧
      outerFinding .header ∈ result'.new := by
  have h := overRoots_libraryRegistry
  have haudited : (libraryRun libraryRegistry).audited (spelledRoots.map Path.ofText)
      ⟨newFindings, [outerFinding .header], 2⟩ = [lineRecord] := by decide
  have hlines := haudited ▸ audit_of_overRoots h
  obtain ⟨stale, haudit, -, -, hwithout, hnew⟩ := audit_finds_redundant (libraryRun libraryRegistry)
    libraryHost (.program Discovery.programName) h
  obtain rfl : stale = [lineRecord] := Except.ok.inj (haudit.symm.trans hlines)
  have hreach : IsInReach libraryConfig spelledRoots headerRecord :=
    ⟨⟨"./A/", List.mem_cons_self, by decide⟩, rfl⟩
  obtain ⟨result', h', v, hv, hmem⟩ := hnew headerRecord (by decide) hreach (by decide)
  obtain rfl : v = outerFinding .header := List.mem_singleton.mp hv
  exact ⟨h, hlines, hwithout, result', h', hmem⟩

end Lint

end StyleLinter
