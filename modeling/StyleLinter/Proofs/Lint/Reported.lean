import StyleLinter.Lint
import StyleLinter.Proofs.Check.Entries
import StyleLinter.Proofs.Check.Messages
import StyleLinter.Proofs.Discovery.Found

/-!
# What a run reports

`Lint.reported` says what there is to report in files: what **all** checkers find in them, of the
kinds that are reported. It does not know which checkers are active and which findings are exempt.
A run that ends has found exactly this (`overRoots_eq_ok_iff`), and splits it by its registry.

The second half is about the entries themselves: each of them names its file, is of a kind that is
reported, and can be written to a list if its file can (`isListable_of_mem_reported`). **No two of
them have the same key** (`nodup_keys_reported`), since no file is checked twice and no file has two
findings with the same mark.
-/

namespace StyleLinter

open Check (Checker Finding)

/-! ### Rules and their tags -/

theorem Rule.tag_injective {r r' : Rule} (h : r.tag = r'.tag) : r = r' := by
  cases r <;> cases r' <;> first | rfl | exact absurd h (by decide)

namespace Lint

variable {run : Lint} {host : Host} {path : Path}

/-! ### Definitions -/

/-- What there is to report in the lines of a file. -/
def reportedIn (config : Config) (path : Text) (lines : List Text) :
    Except Invalid (List Violation) :=
  (((Checker.all config).flatMap (·.findings config lines)).filter
    (config.reports ·.rule.tag)).mapM (·.inFile path)

/-- What there is to report in a file. -/
def reportedAt (run : Lint) (host : Host) (path : Path) : Except Failure (List Violation) :=
  match readLines host (run.base / path) with
  | .error f => .error f
  | .ok lines => (reportedIn run.config path lines).mapError .invalid

/-- What there is to report in the files, one after the other. -/
def reported (run : Lint) (host : Host) (paths : List Path) : Except Failure (List Violation) :=
  (paths.mapM (run.reportedAt host)).map List.flatten

/-- Where the checkers make valid entries only, this is **the part of what all of them find that is
of a reported kind**. -/
theorem reportedIn_of_violations {config : Config} {path : Text} {lines : List Text}
    {vs : List Violation} (h : Check.violations (Checker.all config) config path lines = .ok vs) :
    reportedIn config path lines = .ok (vs.filter (config.reports ·.key.kind)) :=
  mapM_filter h fun f v hv ↦ by rw [(Check.spec_of_inFile hv).2.2.1]

/-! ### Runs -/

/-- **The active checkers find what there is to report.** -/
theorem reportedAt_of_inFile {vs : List Violation}
    (h : run.inFile host (Checker.active run.config) path = .ok vs) :
    run.reportedAt host path = .ok vs := by
  unfold inFile at h
  unfold reportedAt
  cases hlines : readLines host (run.base / path) with
  | error f =>
    rw [hlines] at h
    exact absurd h nofun
  | ok lines =>
    rw [hlines] at h
    dsimp only at h ⊢
    split at h
    · exact absurd h nofun
    · next found hfound =>
      obtain rfl := Except.ok.inj h
      refine mapError_eq_ok_iff.mpr ?_
      rw [reportedIn, ← Checker.filter_active]
      refine mapM_filter hfound fun f v hv ↦ ?_
      rw [(Check.spec_of_inFile hv).2.2.1]

theorem reported_of_mapM_inFile {paths : List Path} {vss : List (List Violation)}
    (h : paths.mapM (run.inFile host (Checker.active run.config)) = .ok vss) :
    run.reported host paths = .ok vss.flatten := by
  refine map_eq_ok_iff.mpr ⟨vss, ?_, rfl⟩
  rw [mapM_eq_ok_iff] at h ⊢
  exact h.imp fun _ _ ↦ reportedAt_of_inFile

/-- The source files of the roots, each once. -/
def sources (run : Lint) (host : Host) (roots : List Path) (lister : Discovery.Lister) :
    Except Failure (List Path) :=
  (roots.mapM fun root ↦ ((run.search lister).files host root).outcome).map
    (·.flatten.eraseDups)

theorem nodup_eraseDups {α : Type} [BEq α] [LawfulBEq α] : ∀ l : List α, l.eraseDups.Nodup
  | [] => List.nodup_nil
  | a :: l => by
    rw [List.eraseDups_cons, List.nodup_cons]
    refine ⟨?_, nodup_eraseDups _⟩
    rw [List.mem_eraseDups, List.mem_filter]
    simp
termination_by l => l.length
decreasing_by exact Nat.lt_succ_of_le (List.length_filter_le _ _)

/-- **A run over files** splits what it finds in them. -/
theorem outcome_overFiles (run : Lint) (host : Host) (checkers : List Checker) (paths : List Path) :
    (run.overFiles host checkers paths).outcome =
      (paths.mapM (run.inFile host checkers)).map fun vss ↦ run.split paths.length vss.flatten := by
  rw [overFiles, Attempt.outcome_bind]
  show (paths.mapM (run.inFile host checkers) >>= _) = _
  cases paths.mapM (run.inFile host checkers) <;> rfl

/-- **A run over roots** is a run over their source files. -/
theorem outcome_overRoots (run : Lint) (host : Host) (roots : List Path)
    (lister : Discovery.Lister) :
    (run.overRoots host roots lister).outcome = run.sources host roots lister >>= fun paths ↦
      (run.overFiles host (Checker.active run.config) paths).outcome := by
  rw [overRoots, Attempt.outcome_bind, Attempt.outcome_mapM, sources]
  cases roots.mapM fun root ↦ ((run.search lister).files host root).outcome <;> rfl

/-- **A run over roots** ends if its files are found and checked, and then it splits what was
found. -/
theorem overRoots_eq_ok_iff {roots : List Path} {lister : Discovery.Lister} {result : Result} :
    (run.overRoots host roots lister).outcome = .ok result ↔
      ∃ paths vss, run.sources host roots lister = .ok paths ∧
        paths.mapM (run.inFile host (Checker.active run.config)) = .ok vss ∧
        result = run.split paths.length vss.flatten := by
  rw [outcome_overRoots, bind_eq_ok_iff]
  refine exists_congr fun paths ↦ ?_
  rw [outcome_overFiles, map_eq_ok_iff, ← exists_and_left]
  exact exists_congr fun vss ↦ and_congr_right fun _ ↦ and_congr_right fun _ ↦ eq_comm

theorem all_split_perm (run : Lint) (n : Nat) (vs : List Violation) :
    (run.split n vs).all.Perm vs := by
  have h := List.filter_append_perm run.registry.exempts vs
  exact List.perm_append_comm.trans h

/-- The split of a part of the findings is **the part of the split**. -/
theorem split_filter (run : Lint) (n : Nat) (vs : List Violation) (q : Violation → Bool) :
    run.split n (vs.filter q) =
      ⟨(run.split n vs).new.filter q, (run.split n vs).suppressed.filter q, n⟩ := by
  rw [split, List.filter_comm, List.filter_comm run.registry.exempts]
  rfl

/-! ### Entries -/

/-- **What an entry says.** It is a finding of an active checker in one of the files, of a kind that
is reported. -/
theorem spec_of_mem_reported {paths : List Path} {vs : List Violation}
    (h : run.reported host paths = .ok vs) {v : Violation} (hv : v ∈ vs) :
    ∃ p ∈ paths, ∃ checker ∈ Checker.active run.config, ∃ lines,
      ∃ f ∈ checker.findings run.config lines,
        run.config.reports f.rule.tag = true ∧ f.inFile p = .ok v := by
  obtain ⟨vss, hvss, rfl⟩ := map_eq_ok_iff.mp h
  obtain ⟨us, hus, hv⟩ := List.mem_flatten.mp hv
  obtain ⟨p, hp, hat⟩ := exists_of_mem_mapM hvss hus
  unfold reportedAt at hat
  split at hat
  · exact absurd hat nofun
  · next lines _ =>
    obtain ⟨f, hf, hfile⟩ := exists_of_mem_mapM (mapError_eq_ok_iff.mp hat) hv
    rw [← Checker.filter_active] at hf
    obtain ⟨hf, hreports⟩ := List.mem_filter.mp hf
    obtain ⟨checker, hchecker, hf⟩ := List.mem_flatMap.mp hf
    exact ⟨p, hp, checker, hchecker, lines, f, hf, hreports, hfile⟩

theorem reports_of_mem_reported {paths : List Path} {vs : List Violation}
    (h : run.reported host paths = .ok vs) {v : Violation} (hv : v ∈ vs) :
    run.config.reports v.key.kind = true := by
  obtain ⟨p, -, checker, -, lines, f, -, hreports, hfile⟩ := spec_of_mem_reported h hv
  rw [(Check.spec_of_inFile hfile).2.2.1]
  exact hreports

theorem path_of_mem_reported {paths : List Path} {vs : List Violation}
    (h : run.reported host paths = .ok vs) {v : Violation} (hv : v ∈ vs) :
    ∃ p ∈ paths, v.key.path = p.toText := by
  obtain ⟨p, hp, checker, -, lines, f, -, -, hfile⟩ := spec_of_mem_reported h hv
  exact ⟨p, hp, (Check.spec_of_inFile hfile).1⟩

/-- **What is reported can be written to a list** if its file can, and its number. -/
theorem isListable_of_mem_reported {paths : List Path} {vs : List Violation}
    (hconfig : run.config.HasNotes) (h : run.reported host paths = .ok vs) {v : Violation}
    (hv : v ∈ vs) (hpath : ExceptionList.IsListable v.key.path) (hw : v.isWritable = true) :
    v.IsListable := by
  obtain ⟨p, -, checker, hchecker, lines, f, hf, -, hfile⟩ := spec_of_mem_reported h hv
  obtain ⟨-, -, hkind, hmessage⟩ := Check.spec_of_inFile hfile
  have htag : ∀ r : Rule, '\n' ∉ r.tag := by
    intro r
    cases r <;> decide
  refine ⟨hpath, hkind ▸ htag f.rule, ?_, hw⟩
  rw [hmessage]
  exact Check.isNote_message hconfig (List.mem_of_mem_filter hchecker) hf

/-- The keys of what there is to report in a file are distinct. -/
theorem nodup_keys_reportedIn {config : Config} {path : Text} {lines : List Text}
    {vs : List Violation} (h : reportedIn config path lines = .ok vs) :
    (vs.map (·.key)).Nodup := by
  have hmarks : ((((Checker.all config).flatMap (·.findings config lines)).filter
      (config.reports ·.rule.tag)).map (·.mark)).Nodup :=
    (List.filter_sublist.map _).nodup (Checker.nodup_marks config lines)
  rw [List.Nodup, List.pairwise_map] at hmarks ⊢
  -- an entry has the line of its finding and the tag of its rule, so a common key is a common mark
  refine pairwise_of_mapM h hmarks fun {f g v w} hne hv hw he ↦ hne ?_
  obtain ⟨-, hvline, hvkind, -⟩ := Check.spec_of_inFile hv
  obtain ⟨-, hwline, hwkind, -⟩ := Check.spec_of_inFile hw
  have hline : f.line = g.line := by rw [← hvline, ← hwline, he]
  have hrule : f.rule = g.rule := Rule.tag_injective (by rw [← hvkind, ← hwkind, he])
  rw [Finding.mark, Finding.mark, hline, hrule]

theorem path_of_mem_reportedAt {vs : List Violation} (h : run.reportedAt host path = .ok vs)
    {v : Violation} (hv : v ∈ vs) : v.key.path = path.toText := by
  have hone : run.reported host [path] = .ok vs := by
    refine map_eq_ok_iff.mpr ⟨[vs], ?_, by simp⟩
    exact mapM_eq_ok_iff.mpr (.cons h .nil)
  obtain ⟨p, hp, hpath⟩ := path_of_mem_reported hone hv
  rw [hpath, List.mem_singleton.mp hp]

/-- **No two entries have the same key.** -/
theorem nodup_keys_reported {paths : List Path} {vs : List Violation}
    (hnormal : ∀ p ∈ paths, p.IsNormal) (hnd : paths.Nodup)
    (h : run.reported host paths = .ok vs) : (vs.map (·.key)).Nodup := by
  obtain ⟨vss, hvss, rfl⟩ := map_eq_ok_iff.mp h
  have htexts : paths.Pairwise fun p q ↦ p.toText ≠ q.toText :=
    List.pairwise_map.mp (Path.nodup_toText hnormal hnd)
  rw [List.Nodup, List.pairwise_map, List.pairwise_flatten]
  -- within a file by the marks, and across files by the paths
  refine ⟨fun vs hvs ↦ ?_, pairwise_of_mapM hvss htexts ?_⟩
  · obtain ⟨p, -, hp⟩ := exists_of_mem_mapM hvss hvs
    unfold reportedAt at hp
    split at hp
    · exact absurd hp nofun
    · have := nodup_keys_reportedIn (mapError_eq_ok_iff.mp hp)
      rwa [List.Nodup, List.pairwise_map] at this
  · intro p q vs ws hne hvs hws v hv w hw he
    refine hne ?_
    rw [← path_of_mem_reportedAt hvs hv, ← path_of_mem_reportedAt hws hw, he]

end Lint

end StyleLinter
