import StyleLinter.Proofs.CommandLine.Gate
import StyleLinter.Proofs.CommandLine.Update
import StyleLinter.Proofs.Lint.Scope

/-!
# Records that are overlooked

A run can check a record only if it reads the file of the record and if one of its checkers can
report the kind. About any other record it should say nothing: an update would keep it, and an audit
would not call it stale. But the scope of a run is decided on its roots and on the kinds that it
reports, and neither the files that were read nor the rules that there are have a part in it.

So there are records that are **overlooked**: they are in scope, and the run cannot check them.
Their files have another extension or are not tracked, or they have a kind of no rule. These are
exactly the ones that the run discards without having checked them (`discards_iff_overlooks`).
-/

namespace StyleLinter

open Check (Checker)

namespace Lint

/-! ### Definitions -/

/-- Is the file of the record there, and the run does not read it? -/
def LeavesUnread (run : Lint) (host : Host) (roots : List Path) (lister : Discovery.Lister)
    (r : Record) : Prop :=
  host.disk.exists? (run.base / Path.ofText r.key.path) = .ok true ∧
    ∀ paths, run.sources host roots lister = .ok paths → ∀ p ∈ paths, p.toText ≠ r.key.path

/-- Can no checker of a run report the kind of the record? -/
def CannotReport (config : Config) (r : Record) : Prop :=
  ∀ checker ∈ Checker.active config, ∀ rule ∈ checker.rules, rule.tag ≠ r.key.kind

/-- Is the record one that the run cannot check? -/
def CannotCheck (run : Lint) (host : Host) (roots : List Path) (lister : Discovery.Lister)
    (r : Record) : Prop :=
  run.LeavesUnread host roots lister r ∨ CannotReport run.config r

/-- Is the record in scope although the run cannot check it? -/
structure Overlooks (run : Lint) (host : Host) (roots : List Path) (lister : Discovery.Lister)
    (r : Record) : Prop where
  /-- The path of the record is below a root. -/
  under : ∃ root ∈ roots, isUnder root r.key.path = true
  /-- Its kind is reported. -/
  reports : run.config.reports r.key.kind = true
  /-- Its file is not read, or its kind is of no rule but that of the strings that no line of code
  may begin with, of which there are none. -/
  unchecked : run.LeavesUnread host roots lister r ∨
    ∀ rule : Rule, rule.tag = r.key.kind → rule = .forbidden ∧ run.config.forbidden = []

/-! ### What a run finds -/

variable {run : Lint} {host : Host} {roots : List Path} {lister : Discovery.Lister} {r : Record}

/-- **Nothing that a run finds has the key of a record that it cannot check.** -/
theorem key_ne_of_cannotCheck (h : run.CannotCheck host roots lister r) {result : Result}
    (hresult : (run.overRoots host roots lister).outcome = .ok result) {v : Violation}
    (hv : v ∈ result.all) : v.key ≠ r.key := by
  obtain ⟨paths, vss, hpaths, hvss, rfl⟩ := overRoots_eq_ok_iff.mp hresult
  have hreported := reported_of_mapM_inFile hvss
  have hv := (all_split_perm _ _ _).mem_iff.mp hv
  intro he
  rcases h with ⟨-, hunread⟩ | hkind
  · obtain ⟨p, hp, hpath⟩ := path_of_mem_reported hreported hv
    exact hunread paths hpaths p hp (by rw [← hpath, he])
  · obtain ⟨p, -, checker, hchecker, lines, f, hf, -, hfile⟩ := spec_of_mem_reported hreported hv
    refine hkind checker hchecker f.rule (Checker.rule_mem_of_mem_findings hf) ?_
    rw [← he, (Check.spec_of_inFile hfile).2.2.1]

/-- **A record that a run cannot check is overlooked if it is in scope**, and only then. -/
theorem inScope_iff_overlooks (h : run.CannotCheck host roots lister r) :
    inScope run.config roots r = true ↔ run.Overlooks host roots lister r := by
  rw [inScope_iff]
  constructor
  · rintro ⟨hunder, hreports⟩
    refine ⟨hunder, hreports, h.imp_right fun hkind rule hrule ↦ ?_⟩
    -- for any other rule whose tag is reported, a checker would be active
    by_contra hwords
    rw [not_and] at hwords
    obtain ⟨checker, hactive, hmem⟩ := Checker.exists_active_of_reports (hrule ▸ hreports) hwords
    exact hkind checker hactive rule hmem hrule
  · exact fun ho ↦ ⟨ho.under, ho.reports⟩

end Lint

namespace CommandLine

open Discovery (Search)

/-- **What a run discards without having checked it.** Let a record of the registry be one that the
run cannot check. It accepts nothing that the run finds. It is not kept by a run, nor by an update,
exactly if it is overlooked, and an audit calls it stale exactly if it is overlooked. -/
theorem discards_iff_overlooks {run : Lint} {host : Host} {roots : List Path}
    {lister : Discovery.Lister} {r : Record} (hr : r ∈ run.registry.records)
    (h : run.CannotCheck host roots lister r) :
    (r ∉ Lint.outOfScope run.config roots run.registry ↔ run.Overlooks host roots lister r) ∧
    (∀ result, (run.overRoots host roots lister).outcome = .ok result →
      (∀ v ∈ result.all, v.key ≠ r.key) ∧
      (r ∉ savedRecords run roots result ↔ run.Overlooks host roots lister r)) ∧
    (∀ stale, (run.audit host roots lister).outcome = .ok stale →
      (r ∈ stale ↔ run.Overlooks host roots lister r)) := by
  have hscope := Lint.inScope_iff_overlooks h
  have hkept : r ∉ Lint.outOfScope run.config roots run.registry ↔
      run.Overlooks host roots lister r := by
    rw [Lint.mem_outOfScope_iff, ← hscope]
    simp [hr]
  refine ⟨hkept, fun result hresult ↦ ⟨fun v ↦ Lint.key_ne_of_cannotCheck h hresult, ?_⟩,
    fun stale hstale ↦ ?_⟩
  · have hnew : r ∉ result.all.map (·.toRecord) := by
      rw [List.mem_map]
      rintro ⟨v, hv, rfl⟩
      exact Lint.key_ne_of_cannotCheck h hresult hv rfl
    rw [← hkept, savedRecords, List.mem_append, or_iff_left hnew]
  · obtain ⟨result, hresult, rfl⟩ := Lint.audit_eq_ok_iff.mp hstale
    rw [List.mem_filter, Registry.mem_stale_iff, hscope, and_iff_right]
    exact ⟨hr, fun v ↦ Lint.key_ne_of_cannotCheck h hresult⟩

/-! ### A sample -/

/-- A workspace with a source file and a file that is none. -/
def mixedHost : Host where
  disk :=
    { tree := ((Files.Tree.empty.put ["A"] (.directory {})).put ["A", "X.lean"]
        (.file {} (Utf8.encode "x\n"))).put ["A", "N.txt"] (.file {} (Utf8.encode "x\n"))
      current := [] }
  git := none

/-- A record for the file that is not a source file. -/
def unreadRecord : Record where
  key := ⟨"A/N.txt", 1, "ERR_LIN", by decide, by decide, Nat.one_pos, by decide⟩
  message := "m"

/-- A record of a kind of no rule. -/
def foreignRecord : Record where
  key := ⟨"A/X.lean", 1, "MY_RULE", samplePath_ne_nil, samplePath_relative, Nat.one_pos, by decide⟩
  message := "m"

/-- A run over the root of the workspace, of which neither record can be checked. -/
def mixedRun : Lint :=
  sampleSettings.run sampleConfig ⟨[unreadRecord, foreignRecord], by decide⟩

theorem sources_mixedRun : mixedRun.sources mixedHost [Path.ofText "A"]
    (.program Discovery.programName) = .ok [samplePath] := by
  refine map_eq_ok_iff.mpr ⟨[[samplePath]], mapM_eq_ok_iff.mpr (.cons ?_ .nil), rfl⟩
  simp only [Search.files, Search.candidates, Discovery.walkRoot, Discovery.walk_eq,
    Attempt.outcome_bind]
  cbv

theorem audit_mixedRun : ∃ stale,
    (mixedRun.audit mixedHost [Path.ofText "A"]).outcome = .ok stale := by
  have hread : Lint.readLines mixedHost (mixedRun.base / samplePath) = .ok ["x\n"] := by cbv
  have hfound : mixedRun.inFile mixedHost (Checker.active mixedRun.config) samplePath =
      .ok [sampleFinding .header, sampleFinding .documentation] := by
    unfold Lint.inFile
    rw [hread]
    rfl
  have hresult := Lint.overRoots_eq_ok_iff.mpr
    ⟨[samplePath], [_], sources_mixedRun, mapM_eq_ok_iff.mpr (.cons hfound .nil), rfl⟩
  exact ⟨_, Lint.audit_eq_ok_iff.mpr ⟨_, hresult, rfl⟩⟩

/-- **Two records that are overlooked.** An update drops them and an audit calls them stale, and no
run over the root can check them. -/
theorem discards_iff_overlooks_sample : ∃ stale,
    (mixedRun.audit mixedHost [Path.ofText "A"]).outcome = .ok stale ∧
      ∀ r ∈ [unreadRecord, foreignRecord],
        mixedRun.CannotCheck mixedHost [Path.ofText "A"] (.program Discovery.programName) r ∧
          r ∉ Lint.outOfScope mixedRun.config [Path.ofText "A"] mixedRun.registry ∧ r ∈ stale := by
  obtain ⟨stale, hstale⟩ := audit_mixedRun
  refine ⟨stale, hstale, fun r hr ↦ ?_⟩
  have hcannot : mixedRun.CannotCheck mixedHost [Path.ofText "A"]
      (.program Discovery.programName) r := by
    rcases List.mem_pair.mp hr with rfl | rfl
    · refine .inl ⟨by cbv, fun paths hpaths p hp ↦ ?_⟩
      obtain rfl := Except.ok.inj (sources_mixedRun.symm.trans hpaths)
      rw [List.mem_singleton.mp hp]
      decide
    · refine .inr fun checker hchecker rule _ ↦ ?_
      cases rule <;> decide
  obtain ⟨hkept, -, haudit⟩ := discards_iff_overlooks hr hcannot
  have hscope : Lint.inScope mixedRun.config [Path.ofText "A"] r = true := by
    rcases List.mem_pair.mp hr with rfl | rfl <;> rfl
  have hover := (Lint.inScope_iff_overlooks hcannot).mp hscope
  exact ⟨hcannot, hkept.mpr hover, (haudit stale hstale).mpr hover⟩

end CommandLine

end StyleLinter
