import Mathlib
import StyleLinter.Proofs.CommandLine.Announced

/-!
# Aggregators that stay up to date

Bringing the aggregators of several roots up to date gives one root after the other its turn, and
each turn may add a file that another root has to import. So **a check after it passes exactly if no
root includes an aggregator that was missing at the start and that was made only at the last turn of
this root or later** (`aggregate_check_passes_iff`).
-/

namespace StyleLinter.CommandLine

open Aggregator (Turns Late Includes IsRoot Regular)

variable {s : Settings} {host host' : Host} {names : List Text}

/-! ### Runs over the roots -/

/-- **Bringing aggregators up to date gives each root its turn.** -/
theorem turns_iff_aggregateAll : Turns s.search host (names.map Path.ofText) host' ↔
    (aggregateAll s host names).1 = host' ∧
      ∃ stale, (aggregateAll s host names).2.outcome = .ok stale := by
  rw [turns_iff_exists_writes, ← exists_and_left]
  exact exists_congr fun _ ↦ writes_iff_aggregateAll

/-- **No aggregator is out of date** exactly if the check of each root passes. -/
theorem staleRoots_eq_nil_iff : (staleRoots s host names).outcome = .ok [] ↔
    ∀ name ∈ names, (Aggregator.check s.search host (Path.ofText name)).outcome = .ok true := by
  rw [staleRoots_eq_ok_iff, @eq_comm _ [], List.filter_eq_nil_iff, ← forall₂_and]
  refine forall₂_congr fun name _ ↦ ?_
  rw [decide_eq_true_iff]
  constructor
  · rintro ⟨⟨b, hb⟩, hsame⟩
    cases b with
    | true => exact hb
    | false => exact absurd (Aggregator.check_eq_false_iff.mp hb) hsame
  · exact fun h ↦ ⟨⟨true, h⟩, (Aggregator.check_eq_true_iff.mp h).not_differs⟩

/-! ### Endings -/

/-- A check of the same aggregators. -/
def Settings.forAggregateCheck (s : Settings) : Settings := { s with check := true }

/-- **An update ends well exactly if each root gets its turn.** -/
theorem turns_iff_run (verbose : Bool) (hcheck : s.check = false)
    (hnames : (s.allRoots host).outcome = .ok names) :
    Turns s.search host (names.map Path.ofText) host' ↔
      (run host ⟨verbose, .aggregate, s⟩).host = host' ∧
        ∃ out err, (run host ⟨verbose, .aggregate, s⟩).ending = .exit 0 out err := by
  obtain ⟨hhost, hending⟩ := aggregate_of_write hcheck hnames
  rw [turns_iff_aggregateAll, ← hhost]
  refine and_congr_right fun _ ↦ ?_
  constructor
  · rintro ⟨stale, hstale⟩
    obtain ⟨out, hzero⟩ : ∃ out, aggregateEnding s stale = .exit 0 out [] := by
      rw [aggregateEnding_eq, hcheck]
      exact ⟨_, rfl⟩
    exact ⟨out, [], ended_of_outcome (hending.trans (map_eq_ok_iff.mpr ⟨stale, hstale, hzero⟩))⟩
  · rintro ⟨out, err, h⟩
    have hended := outcome_of_ended h (by omega)
    obtain ⟨stale, hstale, -⟩ := map_eq_ok_iff.mp (hending.symm.trans hended)
    exact ⟨stale, hstale⟩

/-- **A check ends well exactly if no aggregator is out of date.** -/
theorem check_ends_well_iff {verbose : Bool} (hcheck : s.check = true)
    (hnames : (s.allRoots host).outcome = .ok names) :
    (∃ out err, (run host ⟨verbose, .aggregate, s⟩).ending = .exit 0 out err) ↔
      (staleRoots s host names).outcome = .ok [] := by
  obtain ⟨-, haggregate⟩ := aggregate_of_check hcheck hnames
  constructor
  · rintro ⟨out, err, h⟩
    have hended := outcome_of_ended h (by omega)
    obtain ⟨stale, hstale, hending⟩ := map_eq_ok_iff.mp (haggregate.symm.trans hended)
    cases stale with
    | nil => exact hstale
    | cons name stale =>
      rw [aggregateEnding_eq, hcheck] at hending
      exact absurd (Ending.exit.inj hending).1 Nat.one_ne_zero
  · intro h
    have hending : aggregateEnding s [] = .exit 0 [] [] := by
      rw [aggregateEnding_eq, hcheck]
      rfl
    exact ⟨[], [], ended_of_outcome (haggregate.trans (map_eq_ok_iff.mpr ⟨[], h, hending⟩))⟩

/-- What is asked of roots, of the extension and of the files, makes a run regular. -/
theorem regular_of_turns (hturns : Turns s.search host (names.map Path.ofText) host')
    (hrelative : ∀ name ∈ names, (Path.ofText name).slashes = 0)
    (hdots : ∀ name ∈ names, "..".toList ∉ (Path.ofText name).parts)
    (hslash : '/' ∉ s.extension) (hlinks : host.disk.tree.Linkless)
    (hreturn : host.disk.tree.Lacks '\r') : Regular s.search host (names.map Path.ofText) := by
  refine ⟨hlinks, hreturn, fun root hroot ↦ ?_, hslash, fun given hgiven ↦ ?_⟩
  · have hhere := hturns.ne_here hroot
    obtain ⟨name, hname, rfl⟩ := List.mem_map.mp hroot
    have hnormal := Path.isNormal_ofText name
    refine ⟨hnormal, hrelative name hname, fun hparts ↦ hhere ?_, fun t ht ↦ ⟨?_, ?_⟩⟩
    · exact Path.eq_of_parts_eq (hrelative name hname) hparts
    · exact (Path.isPart_iff.mp (hnormal.isPart t ht)).2
    · exact fun he ↦ hdots name hname (he ▸ ht)
  · have hlister : s.search.lister =
        if s.tracked then some (.program Discovery.programName) else none := rfl
    rw [hlister] at hgiven
    split at hgiven <;> exact absurd hgiven nofun

/-- **A check passes after an update exactly if the update has made no aggregator too late.** After
an update of the roots that ends well, a check of the same roots passes unless one of them includes
an aggregator that was missing before and that was made only at the last turn of this root or
later. -/
theorem aggregate_check_passes_iff {verbose : Bool} {out err : Text} (verbose' : Bool)
    (hcheck : s.check = false) (hnames : (s.allRoots host).outcome = .ok names)
    (hrelative : ∀ name ∈ names, (Path.ofText name).slashes = 0)
    (hdots : ∀ name ∈ names, "..".toList ∉ (Path.ofText name).parts)
    (hslash : '/' ∉ s.extension) (hlinks : host.disk.tree.Linkless)
    (hreturn : host.disk.tree.Lacks '\r')
    (h : (run host ⟨verbose, .aggregate, s⟩).ending = .exit 0 out err)
    (hsame : (s.allRoots (run host ⟨verbose, .aggregate, s⟩).host).outcome = .ok names) :
    (∃ out' err', (run (run host ⟨verbose, .aggregate, s⟩).host
      ⟨verbose', .aggregate, s.forAggregateCheck⟩).ending = .exit 0 out' err') ↔
    ∀ outer inner, Late (names.map Path.ofText) outer inner →
      host.disk.exists? (s.workspace / Aggregator.path inner s.extension) = .ok false →
        ¬ Includes s.search (run host ⟨verbose, .aggregate, s⟩).host outer inner := by
  have hturns := (turns_iff_run _ hcheck hnames).mpr ⟨rfl, out, err, h⟩
  generalize (run host ⟨verbose, .aggregate, s⟩).host = host' at hturns hsame ⊢
  have hregular := regular_of_turns hturns hrelative hdots hslash hlinks hreturn
  calc
    _ ↔ (staleRoots s.forAggregateCheck host' names).outcome = .ok [] :=
      check_ends_well_iff rfl hsame
    _ ↔ ∀ name ∈ names,
        (Aggregator.check s.search host' (Path.ofText name)).outcome = .ok true :=
      staleRoots_eq_nil_iff
    _ ↔ ∀ root ∈ names.map Path.ofText, (Aggregator.check s.search host' root).outcome = .ok true :=
      by rw [List.forall_mem_map]
    _ ↔ _ := hturns.checks_iff hregular

/-! ### A sample -/

/-- A workspace with a file in a directory of a directory, and perhaps with aggregators. -/
def nestedHost (aggregators : List Files.Place) : Host where
  disk :=
    { tree := aggregators.foldl (fun t p ↦ t.put p (.file {} (Utf8.encode "import A.B.Y\n")))
        (((Files.Tree.empty.put ["A"] (.directory {})).put ["A", "B"] (.directory {})).put
          ["A", "B", "Y.lean"] (.file {} []))
      current := [] }
  git := none

/-- The path of the file. -/
def nestedPath : Path := ⟨0, ["A", "B", "Y.lean"]⟩

/-- The outer directory has its turn before the inner one. -/
def nestedSettings : Settings where
  roots := ["A", "A/B"]

theorem walk_outer_nestedHost :
    Discovery.walk (nestedHost []).disk ".lean" ⟨0, ["A"]⟩ ⟨0, ["A"]⟩ ⟨["A"], 0⟩ =
      .ok [nestedPath] := by
  have hinner : Discovery.walk (nestedHost []).disk ".lean" ⟨0, ["A", "B"]⟩ ⟨0, ["A", "B"]⟩
      ⟨["A", "B"], 0⟩ = .ok [nestedPath] := by
    rw [Discovery.walk_eq]
    cbv
  have hnames : (nestedHost []).disk.namesAt ["A"] = .ok ["B"] := by cbv
  have hlook : Discovery.lookUp (nestedHost []).disk ⟨["A"], 0⟩ (Path.child ⟨0, ["A"]⟩ "B") "B" =
      .ok (.directory ⟨["A", "B"], 0⟩) := by cbv
  have hvisit : Discovery.visit (nestedHost []).disk ".lean" ⟨0, ["A"]⟩ ⟨0, ["A"]⟩ ⟨["A"], 0⟩ "B" =
      .ok [nestedPath] := by
    rw [Discovery.visit, hlook]
    exact hinner
  rw [Discovery.walk_eq, hnames]
  exact map_eq_ok_iff.mpr ⟨_, mapM_eq_ok_iff.mpr (.cons hvisit .nil), rfl⟩

/-- The modules of a root where a walk finds the file only. -/
theorem modules_nestedHost {root : Path} (hroot : root ≠ Path.here)
    (hne : nestedPath.toText ≠ Discovery.aggregatorText root ".lean")
    (hexists : host.disk.exists? (Path.here / nestedPath) = .ok true)
    (hwalk : Discovery.walkRoot host Path.here root ".lean" = .ok [nestedPath]) :
    (nestedSettings.search.modules host root).outcome = .ok ["A.B.Y"] := by
  have hkeeps : nestedSettings.search.keeps host root nestedPath = true :=
    Bool.and_eq_true_iff.mpr ⟨bne_iff_ne.mpr hne, Discovery.Search.isThere_iff.mpr hexists⟩
  have hname : ModuleName.ofPath nestedPath ".lean" = .ok "A.B.Y" := by cbv
  have hfiles : (nestedSettings.search.files host root).outcome = .ok [nestedPath] := by
    refine Discovery.Search.files_eq_ok_iff.mpr ⟨hroot, [nestedPath], hwalk, fun p hp ↦ ?_, ?_⟩
    · obtain rfl := List.mem_singleton.mp hp
      exact .inr ⟨true, hexists⟩
    · rw [List.filter_cons_of_pos hkeeps, List.filter_nil, List.mergeSort_singleton]
  exact Discovery.Search.modules_eq_ok_iff.mpr
    ⟨_, hfiles, mapM_eq_ok_iff.mpr (.cons hname .nil)⟩

theorem update_outer_nestedHost :
    (Aggregator.update nestedSettings.search (nestedHost []) ⟨0, ["A"]⟩).outcome =
      .ok (nestedHost [["A.lean"]], false) := by
  have hwalk : Discovery.walkRoot (nestedHost []) Path.here ⟨0, ["A"]⟩ ".lean" =
      .ok [nestedPath] :=
    Discovery.walkRoot_eq_ok_iff.mpr ⟨⟨["A"], 0⟩, by cbv, by cbv, walk_outer_nestedHost⟩
  have hmodules := modules_nestedHost (by decide) (by decide) (by cbv) hwalk
  have hwrite : (nestedHost []).disk.write (Path.here / ⟨0, ["A.lean"]⟩)
      (Utf8.encode "import A.B.Y\n") = .ok (nestedHost [["A.lean"]]).disk := by cbv
  exact Aggregator.update_of_stale hmodules (by cbv) (Option.some_ne_none _).symm hwrite

theorem update_inner_nestedHost :
    (Aggregator.update nestedSettings.search (nestedHost [["A.lean"]]) ⟨0, ["A", "B"]⟩).outcome =
      .ok (nestedHost [["A.lean"], ["A", "B.lean"]], false) := by
  have hwalk : Discovery.walk (nestedHost [["A.lean"]]).disk ".lean" ⟨0, ["A", "B"]⟩ ⟨0, ["A", "B"]⟩
      ⟨["A", "B"], 0⟩ = .ok [nestedPath] := by
    rw [Discovery.walk_eq]
    cbv
  have hroot : Discovery.walkRoot (nestedHost [["A.lean"]]) Path.here ⟨0, ["A", "B"]⟩ ".lean" =
      .ok [nestedPath] :=
    Discovery.walkRoot_eq_ok_iff.mpr ⟨⟨["A", "B"], 0⟩, by cbv, by cbv, hwalk⟩
  have hmodules := modules_nestedHost (by decide) (by decide) (by cbv) hroot
  have hwrite : (nestedHost [["A.lean"]]).disk.write (Path.here / ⟨0, ["A", "B.lean"]⟩)
      (Utf8.encode "import A.B.Y\n") = .ok (nestedHost [["A.lean"], ["A", "B.lean"]]).disk := by cbv
  exact Aggregator.update_of_stale hmodules (by cbv) (Option.some_ne_none _).symm hwrite

/-- The host after the update. -/
def nestedEnd : Host := nestedHost [["A.lean"], ["A", "B.lean"]]

theorem turns_nestedHost : Turns nestedSettings.search (nestedHost [])
    (nestedSettings.roots.map Path.ofText) nestedEnd :=
  .cons update_outer_nestedHost (.cons update_inner_nestedHost (.nil _))

theorem aggregate_check_passes_iff_nested :
    (∃ out err, (run (nestedHost []) ⟨false, .aggregate, nestedSettings⟩).ending =
      .exit 0 out err) ∧
    ¬ ∃ out err, (run (run (nestedHost []) ⟨false, .aggregate, nestedSettings⟩).host
      ⟨false, .aggregate, nestedSettings.forAggregateCheck⟩).ending = .exit 0 out err := by
  have hnames {host : Host} :
      (nestedSettings.allRoots host).outcome = .ok nestedSettings.roots := rfl
  have hrelative : ∀ name ∈ nestedSettings.roots, (Path.ofText name).slashes = 0 := by decide
  have hdots : ∀ name ∈ nestedSettings.roots, "..".toList ∉ (Path.ofText name).parts := by decide
  have hslash : '/' ∉ nestedSettings.extension := by decide
  have hlinks : (nestedHost []).disk.tree.Linkless := by
    have hnodes : ∀ e ∈ (nestedHost []).disk.tree.nodes,
        e.2 = .file {} [] ∨ e.2 = .directory {} := by decide
    refine Files.Tree.linkless_of_nodes fun e he target hlink ↦ ?_
    rcases hnodes e he with h | h <;> exact absurd (h.symm.trans hlink) nofun
  have hreturn : (nestedHost []).disk.tree.Lacks '\r' := Files.Tree.lacks_of_nodes (by decide)
  obtain ⟨hhost, out, err, hupdate⟩ :=
    (turns_iff_run false rfl hnames).mp turns_nestedHost
  have hmissing : (nestedHost []).disk.exists?
      (nestedSettings.workspace / Aggregator.path ⟨0, ["A", "B"]⟩ nestedSettings.extension) =
        .ok false := by cbv
  have hlate : Late (nestedSettings.roots.map Path.ofText) ⟨0, ["A"]⟩ ⟨0, ["A", "B"]⟩ :=
    ⟨[], [⟨0, ["A", "B"]⟩], rfl, by decide, by decide, List.not_mem_nil⟩
  have hincludes : Includes nestedSettings.search nestedEnd ⟨0, ["A"]⟩ ⟨0, ["A", "B"]⟩ := by
    have hregular := regular_of_turns turns_nestedHost hrelative hdots hslash hlinks hreturn
    refine (turns_nestedHost.includes_iff_isBelow hregular rfl (by decide) (by decide)).mpr ?_
    exact ⟨rfl, ["B"], by decide, by decide, rfl⟩
  refine ⟨⟨out, err, hupdate⟩, fun hcheck ↦ ?_⟩
  have hpasses := aggregate_check_passes_iff false rfl hnames hrelative hdots hslash hlinks hreturn
    hupdate hnames
  exact hpasses.mp hcheck _ _ hlate hmissing (hhost ▸ hincludes)

end StyleLinter.CommandLine
