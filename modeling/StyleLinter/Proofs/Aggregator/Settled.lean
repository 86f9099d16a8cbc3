import StyleLinter.Proofs.Aggregator.Naming
import StyleLinter.Proofs.Files.Straight

/-!
# One write suffices

An aggregator may be anywhere: the extension may have slashes, so that its path goes on below the
root or up again. **It never enters the list of the files of its root**
(`place_ne_of_leadsToSource`): with slashes in the extension no file has it, and without them the
aggregator is beside the root. So the files of a root that is walked are the same after its turn
(`files_of_update`), and the modules that were written are read back, in UTF-8 and with their
newlines. The aggregator is then **up to date**, and a call leaves a host with an aggregator that is
up to date as it is (`syncs_of_isUpToDate`).
-/

namespace StyleLinter.Aggregator

open Discovery Files

variable {s : Search} {host host' : Host} {root : Path} {b : Bool}

/-! ### Calls -/

/-- Is the aggregator only compared, or is it written as well? -/
inductive Mode where
  /-- It is only compared. -/
  | check
  /-- It is written unless it is up to date. -/
  | write
deriving DecidableEq, Repr

/-- A call: the host that it leaves, and its answer. A call that fails leaves the host as it is. -/
def sync (s : Search) (root : Path) (mode : Mode) (host : Host) : Host × Except Failure Bool :=
  match mode with
  | .check => (host, (check s host root).outcome)
  | .write =>
    match (update s host root).outcome with
    | .ok (host', b) => (host', .ok b)
    | .error f => (host, .error f)

/-- Calls one after the other: the host that the last one leaves, and all answers. -/
def syncs (s : Search) (root : Path) : List Mode → Host → Host × List (Except Failure Bool)
  | [], host => (host, [])
  | mode :: modes, host =>
    let (host', answer) := sync s root mode host
    let (host'', answers) := syncs s root modes host'
    (host'', answer :: answers)

theorem sync_write_eq_ok_iff :
    sync s root .write host = (host', .ok b) ↔ (update s host root).outcome = .ok (host', b) := by
  unfold sync
  cases (update s host root).outcome with
  | error f => exact ⟨fun h ↦ absurd (Prod.mk.inj h).2 nofun, nofun⟩
  | ok r =>
    obtain ⟨host₁, b₁⟩ := r
    constructor
    · intro h
      obtain ⟨rfl, hb⟩ := Prod.mk.inj h
      rw [Except.ok.inj hb]
    · intro h
      obtain ⟨rfl, rfl⟩ := Prod.mk.inj (Except.ok.inj h)
      rfl

/-- **A call answers whether the aggregator says what the modules are**, in either mode. -/
theorem of_sync_eq_ok {mode : Mode} (h : (sync s root mode host).2 = .ok b) :
    ∃ modules text, (s.modules host root).outcome = .ok modules ∧
      current host (s.base / path root s.extension) = .ok text ∧
      b = decide (text = some (render modules)) := by
  cases mode with
  | check => exact check_eq_ok_iff.mp h
  | write =>
    have hupdate := sync_write_eq_ok_iff.mp (Prod.ext rfl h)
    obtain ⟨modules, text, hmodules, htext, hturn⟩ := update_eq_ok_iff.mp hupdate
    refine ⟨modules, text, hmodules, htext, ?_⟩
    rcases hturn with ⟨hsame, -, rfl⟩ | ⟨hstale, rfl, -⟩
    · exact (decide_eq_true hsame).symm
    · exact (decide_eq_false hstale).symm

/-! ### Aggregators that are up to date -/

/-- Does the aggregator of a root say what its modules are? -/
def IsUpToDate (s : Search) (host : Host) (root : Path) : Prop :=
  ∃ modules, (s.modules host root).outcome = .ok modules ∧
    current host (s.base / path root s.extension) = .ok (some (render modules))

theorem eq_true_iff_of_sync {mode : Mode} (h : (sync s root mode host).2 = .ok b) :
    b = true ↔ IsUpToDate s host root := by
  obtain ⟨modules, text, hmodules, htext, rfl⟩ := of_sync_eq_ok h
  rw [decide_eq_true_iff]
  constructor
  · rintro rfl
    exact ⟨modules, hmodules, htext⟩
  · rintro ⟨modules', hmodules', htext'⟩
    obtain rfl := Except.ok.inj (hmodules.symm.trans hmodules')
    exact Except.ok.inj (htext.symm.trans htext')

/-- **A call leaves a host alone where the aggregator is up to date**, and says so. -/
theorem sync_of_isUpToDate (h : IsUpToDate s host root) (mode : Mode) :
    sync s root mode host = (host, .ok true) := by
  obtain ⟨modules, hmodules, htext⟩ := h
  cases mode with
  | check =>
    have hcheck : (check s host root).outcome = .ok true :=
      check_eq_ok_iff.mpr ⟨modules, _, hmodules, htext, (decide_eq_true rfl).symm⟩
    exact Prod.ext rfl hcheck
  | write =>
    exact sync_write_eq_ok_iff.mpr
      (update_eq_ok_iff.mpr ⟨modules, _, hmodules, htext, .inl ⟨rfl, rfl, rfl⟩⟩)

theorem syncs_of_isUpToDate (h : IsUpToDate s host root) (modes : List Mode) :
    syncs s root modes host = (host, modes.map fun _ ↦ .ok true) := by
  induction modes with
  | nil => rfl
  | cons mode modes ih =>
    rw [syncs, sync_of_isUpToDate h mode]
    dsimp only
    rw [ih]
    rfl

/-! ### The files of a root after its turn -/

theorem isRelative_path (hroot : root.IsRelative) (extension : Text) :
    (path root extension).IsRelative := by
  refine Path.isRelative_ofText ?_
  obtain ⟨c, r, htext⟩ := List.exists_cons_of_ne_nil (Path.toText_ne_nil hroot.isNormal)
  have hhead := hroot.head?_toText
  rw [htext] at hhead
  rw [aggregatorText, htext]
  exact hhead

/-- **An aggregator is not among the files of its root**, wherever it is. -/
theorem place_ne_of_leadsToSource {d : Disk} {base : Path} {extension : Text} (ht : d.tree.Linkless)
    (hroot : IsRoot root) {names : List Text}
    (hleads : LeadsToSource d extension (base / root) names) {spot spot' : Spot}
    (hs : d.spot (base / root.below names) = .ok spot)
    (hs' : d.spot (base / path root extension) = .ok spot') : spot.place ≠ spot'.place := by
  intro hplace
  have hbelow : IsBelow (root.below names) root :=
    ⟨rfl, names, hleads.ne_nil, hleads.isName, rfl⟩
  by_cases hslash : '/' ∈ extension
  · -- no name has this extension
    obtain ⟨front, name, rfl, hextension⟩ := hleads.hasExtension
    have hname := hleads.isName name List.mem_concat_self
    have hsuffix := List.isSuffixOf_iff_suffix.mp (Bool.and_eq_true_iff.mp hextension).1
    exact (Tree.isName_iff.mp hname).2.2.2 (hsuffix.subset hslash)
  · have hpath := Disk.eq_of_spot_place ht (hbelow.leadsDown hroot.leadsDown)
      (isRoot_path hroot hslash).leadsDown hs hs' hplace
    rw [hpath, isBelow_path_iff hroot hslash] at hbelow
    exact not_isBelow_self root hbelow

section Walk

variable (ht : host.disk.tree.Linkless) (hroot : root.IsRelative)
  (h : (update s host root).outcome = .ok (host', b))

include h

/-- What is new after a turn is the aggregator. -/
theorem place_eq_of_new {place : Place} {spot : Spot}
    (hs : host'.disk.spot (s.base / path root s.extension) = .ok spot)
    (hnone : host.disk.tree.node? place = none) (hsome : host'.disk.tree.node? place ≠ none) :
    place = spot.place := by
  obtain ⟨-, -, spot', hs', -, hframe⟩ := spec_of_update h
  obtain rfl := Except.ok.inj (hs.symm.trans hs')
  by_contra hother
  exact hsome ((hframe place hother).trans hnone)

variable {candidates candidates' : List Path}
  (hwalk : walkRoot host s.base root s.extension = .ok candidates)

include ht hroot hwalk

/-- **A walk still ends well after the turn of its root**: where the aggregator is below the base,
it can be asked about. -/
theorem exists_walkRoot_of_update (hleads : root.LeadsDown) :
    ∃ candidates', walkRoot host' s.base root s.extension = .ok candidates' := by
  obtain ⟨hgrown, -, target, htarget, -⟩ := spec_of_update h
  have ht' := hgrown.tree.linkless ht
  refine exists_walkRoot_of_grown hgrown ht' hleads hwalk fun spot names hbase hnone hsome ↦ ?_
  have hplace := place_eq_of_new h htarget hnone hsome
  by_cases hnames : names = []
  · rw [hnames, Path.below, List.append_nil]
    exact ⟨_, Disk.kind?_of_spot hbase⟩
  · rw [Path.join_eq_below (isRelative_path hroot s.extension).slashes] at htarget
    exact ⟨_, Disk.kind?_of_spot (Disk.spot_straight ht' hbase htarget hnames hplace.symm)⟩

/-- **A walk finds the same after the turn of its root.** -/
theorem mem_walkRoot_of_update (hisRoot : IsRoot root)
    (hwalk' : walkRoot host' s.base root s.extension = .ok candidates') (p : Path) :
    p ∈ candidates ↔ p ∈ candidates' := by
  obtain ⟨hgrown, -, target, htarget, -⟩ := spec_of_update h
  rw [mem_walkRoot_of_grown hgrown hroot.slashes hwalk hwalk']
  refine and_iff_left_of_imp fun hp ↦ ?_
  have hexists := exists?_of_mem_walkRoot hroot.slashes hwalk' hp
  rcases hgrown.exists? (s.base / p) with hsame | ⟨-, -, spot, hs, hnone⟩
  · exact hsame.symm.trans hexists
  · -- only the aggregator is new
    obtain ⟨names, hleads, rfl⟩ := (mem_walkRoot_iff hwalk').mp hp
    obtain ⟨spot', hs', hsome⟩ := Disk.spot_of_exists? hexists
    obtain rfl := Except.ok.inj (hs.symm.trans hs')
    exact absurd (place_eq_of_new h htarget hnone hsome)
      (place_ne_of_leadsToSource (hgrown.tree.linkless ht) hisRoot hleads hs htarget)

end Walk

section Turn

variable (hlister : s.lister = none) (ht : host.disk.tree.Linkless) (hroot : root.IsRelative)
  (hdots : (".." : Text) ∉ root.parts)

include hlister ht hroot hdots

/-- **The files of a root that is walked are the same after its turn.** -/
theorem files_of_update (h : (update s host root).outcome = .ok (host', b)) {files : List Path}
    (hfiles : (s.files host root).outcome = .ok files) :
    (s.files host' root).outcome = .ok files := by
  obtain ⟨hne, candidates, hcandidates, -, -⟩ := Search.files_eq_ok_iff.mp hfiles
  have hisRoot := isRoot_of_isRelative hroot hdots hne
  have hwalk := (Search.outcome_candidates_of_walk hlister).symm.trans hcandidates
  obtain ⟨candidates', hwalk'⟩ := exists_walkRoot_of_update ht hroot h hwalk hisRoot.leadsDown
  have hcandidates' := (Search.outcome_candidates_of_walk hlister).trans hwalk'
  obtain ⟨files', hfiles'⟩ : ∃ files', (s.files host' root).outcome = .ok files' :=
    ⟨_, Search.files_eq_ok_iff.mpr ⟨hne, candidates', hcandidates',
      fun p hp ↦ .inr ⟨true, exists?_of_mem_walkRoot hroot.slashes hwalk' hp⟩, rfl⟩⟩
  have hmem (p : Path) : p ∈ files ↔ p ∈ files' := by
    rw [Search.mem_files_iff hfiles hcandidates, Search.mem_files_iff hfiles' hcandidates',
      ← mem_walkRoot_of_update ht hroot h hwalk hisRoot hwalk' p]
    refine and_congr_right fun hp ↦ and_congr_right fun _ ↦ iff_of_true ?_ ?_
    · exact exists?_of_mem_walkRoot hroot.slashes hwalk hp
    · exact exists?_of_mem_walkRoot hroot.slashes hwalk'
        ((mem_walkRoot_of_update ht hroot h hwalk hisRoot hwalk' p).mp hp)
  have hperm := (List.perm_ext_iff_of_nodup (Search.nodup_of_files hlister hfiles)
    (Search.nodup_of_files hlister hfiles')).mpr hmem
  rwa [Search.eq_of_perm_of_files hroot.isNormal hfiles hfiles' hperm]

/-- The modules of a root that is walked are named by characters of the names in the tree. -/
theorem not_mem_of_modules {c : Char} (hc : host.disk.tree.Lacks c) (hdot : c ≠ '.')
    (hslash : c ≠ '/') {modules : List Text}
    (hmodules : (s.modules host root).outcome = .ok modules) : ∀ m ∈ modules, c ∉ m := by
  intro m hm
  obtain ⟨files, hfiles, hnames⟩ := Search.modules_eq_ok_iff.mp hmodules
  obtain ⟨p, hp, hname⟩ := exists_of_mem_mapM hnames hm
  obtain ⟨hne, candidates, hcandidates, -, -⟩ := Search.files_eq_ok_iff.mp hfiles
  have hbelow := Search.isBelow_of_mem_files hlister hfiles hp
  have hleads := hbelow.leadsDown (isRoot_of_isRelative hroot hdots hne).leadsDown
  obtain ⟨spot, hs, hnode⟩ :=
    Disk.spot_of_exists? ((Search.mem_files_iff hfiles hcandidates).mp hp).2.2
  have hparts := Disk.not_mem_of_spot_join ht hc hleads hs hnode
  exact ModuleName.not_mem_ofPath hdot hslash hname fun hmem ↦
    Path.not_mem_toText hdot hslash hparts (List.mem_of_mem_take hmem)

/-- **After the turn of a root that is walked its aggregator is up to date.** -/
theorem isUpToDate_of_update (hreturn : host.disk.tree.Lacks '\r')
    (h : (update s host root).outcome = .ok (host', b)) : IsUpToDate s host' root := by
  obtain ⟨modules, -, hmodules, -⟩ := update_eq_ok_iff.mp h
  obtain ⟨files, hfiles, hnames⟩ := Search.modules_eq_ok_iff.mp hmodules
  have hfiles' := files_of_update hlister ht hroot hdots h hfiles
  refine ⟨modules, Search.modules_eq_ok_iff.mpr ⟨files, hfiles', hnames⟩, ?_⟩
  exact current_of_update h hmodules
    (not_mem_of_modules hlister ht hroot hdots hreturn (by decide) (by decide) hmodules)

/-- **One write suffices.** A root that is relative and has no double dots is walked in a tree
without links and without carriage returns in names. A check leaves the host as it is. In either
mode the answer is whether the aggregator is there and says what the modules are, up to newlines; so
the modes agree whenever both answer, and a write that finds the aggregator up to date changes
nothing. Any other write changes the aggregator only, which then has one line for each module, and
all later calls leave everything as it is and find the aggregator up to date. -/
theorem one_write_suffices (hreturn : host.disk.tree.Lacks '\r') :
    (sync s root .check host).1 = host ∧
    (∀ b b', (sync s root .check host).2 = .ok b → (sync s root .write host).2 = .ok b' →
      b = b') ∧
    (∀ mode b, (sync s root mode host).2 = .ok b →
      (b = true ↔ ∃ modules, (s.modules host root).outcome = .ok modules ∧
        host.disk.exists? (s.base / path root s.extension) = .ok true ∧
        ∃ bytes t, host.disk.read (s.base / path root s.extension) = .ok bytes ∧
          Utf8.decode bytes = .ok t ∧ Text.unifyNewlines t = render modules)) ∧
    ((sync s root .write host).2 = .ok true → (sync s root .write host).1 = host) ∧
    ∀ host', sync s root .write host = (host', .ok false) →
      (∃ modules, (s.modules host root).outcome = .ok modules ∧
        host'.disk.contents? (s.base / path root s.extension) =
          some (Utf8.encode (modules.flatMap fun m ↦ "import ".toList ++ m ++ ['\n']))) ∧
      (∃ spot, host'.disk.spot (s.base / path root s.extension) = .ok spot ∧
        ∀ place, place ≠ spot.place →
          host'.disk.tree.node? place = host.disk.tree.node? place) ∧
      host'.disk.current = host.disk.current ∧ host'.git = host.git ∧
      ∀ modes, syncs s root modes host' = (host', modes.map fun _ ↦ .ok true) := by
  refine ⟨rfl, fun b b' hcheck hwrite ↦ ?_, fun mode b h ↦ ?_, fun h ↦ ?_, fun host' h ↦ ?_⟩
  · rw [Bool.eq_iff_iff, eq_true_iff_of_sync hcheck, eq_true_iff_of_sync hwrite]
  · rw [eq_true_iff_of_sync h]
    refine exists_congr fun modules ↦ and_congr_right fun _ ↦ current_eq_some_iff.trans ?_
    simp only [eq_comm]
  · rw [sync_of_isUpToDate ((eq_true_iff_of_sync h).mp rfl)]
  · have hupdate := sync_write_eq_ok_iff.mp h
    obtain ⟨hgrown, hgit, spot, hs, -, hframe⟩ := spec_of_update hupdate
    obtain ⟨modules, -, hmodules, -⟩ := update_eq_ok_iff.mp hupdate
    exact ⟨⟨modules, hmodules, contents?_of_update hmodules hupdate⟩, ⟨spot, hs, hframe⟩,
      hgrown.current, hgit,
      syncs_of_isUpToDate (isUpToDate_of_update hlister ht hroot hdots hreturn hupdate)⟩

end Turn

/-! ### A stale aggregator -/

/-- A workspace with one file and the aggregator beside its directory. -/
def staleHost (aggregator : Text) : Host where
  disk :=
    { tree := ((Tree.empty.put ["A"] (.directory {})).put ["A", "X.lean"] (.file {} [])).put
        ["A.lean"] (.file {} (Utf8.encode aggregator))
      current := [] }
  git := none

/-- A search that walks the workspace. -/
def staleSearch : Search where
  base := Path.here

/-- The directory that the file is in. -/
def staleRoot : Path := ⟨0, ["A"]⟩

theorem modules_staleHost : (staleSearch.modules (staleHost "import A.Y\n") staleRoot).outcome =
    .ok ["A.X"] := by
  have hwalk : walk (staleHost "import A.Y\n").disk ".lean" staleRoot staleRoot ⟨["A"], 0⟩ =
      .ok [⟨0, ["A", "X.lean"]⟩] := by
    rw [walk_eq]
    cbv
  have hwalkRoot : walkRoot (staleHost "import A.Y\n") Path.here staleRoot ".lean" =
      .ok [⟨0, ["A", "X.lean"]⟩] :=
    walkRoot_eq_ok_iff.mpr ⟨⟨["A"], 0⟩, by cbv, by cbv, hwalk⟩
  have hfiles : (staleSearch.files (staleHost "import A.Y\n") staleRoot).outcome =
      .ok [⟨0, ["A", "X.lean"]⟩] := by
    refine Search.files_eq_ok_iff.mpr ⟨by decide, _, hwalkRoot, fun p hp ↦ ?_, by cbv⟩
    obtain rfl := List.mem_singleton.mp hp
    exact .inr ⟨true, by cbv⟩
  exact Search.modules_eq_ok_iff.mpr ⟨_, hfiles, by cbv⟩

theorem sync_staleHost : sync staleSearch staleRoot .write (staleHost "import A.Y\n") =
    (staleHost "import A.X\n", .ok false) := by
  have hcurrent : current (staleHost "import A.Y\n") (Path.here / path staleRoot ".lean") =
      .ok (some "import A.Y\n") := by cbv
  have hstale : some ("import A.Y\n" : Text) ≠ some (render ["A.X"]) := by decide
  have hwrite : (staleHost "import A.Y\n").disk.write (Path.here / path staleRoot ".lean")
      (Utf8.encode (render ["A.X"])) = .ok (staleHost "import A.X\n").disk := by cbv
  exact sync_write_eq_ok_iff.mpr (update_of_stale modules_staleHost hcurrent hstale hwrite)

/-- The aggregator imports a module that is no longer there. It is written once, and then a check, a
write and another check find it up to date. -/
theorem one_write_suffices_stale :
    sync staleSearch staleRoot .write (staleHost "import A.Y\n") =
      (staleHost "import A.X\n", .ok false) ∧
    syncs staleSearch staleRoot [.check, .write, .check] (staleHost "import A.X\n") =
      (staleHost "import A.X\n", [.ok true, .ok true, .ok true]) := by
  have hlister : staleSearch.lister = none := rfl
  have hroot : staleRoot.IsRelative := ⟨⟨by decide, by decide, by decide⟩, rfl⟩
  have hlinks : (staleHost "import A.Y\n").disk.tree.Linkless := by
    have hnodes : ∀ e ∈ (staleHost "import A.Y\n").disk.tree.nodes,
        e.2.bare = .file {} [] ∨ e.2.bare = .directory {} := by decide
    refine Tree.linkless_of_nodes fun e he target hlink ↦ ?_
    rcases hnodes e he with h | h <;> rw [hlink] at h <;> exact absurd h nofun
  have hreturn : (staleHost "import A.Y\n").disk.tree.Lacks '\r' :=
    Tree.lacks_of_nodes (by decide)
  obtain ⟨-, -, -, -, hwrite⟩ := one_write_suffices hlister hlinks hroot (by decide) hreturn
  obtain ⟨-, -, -, -, hlater⟩ := hwrite _ sync_staleHost
  exact ⟨sync_staleHost, hlater [.check, .write, .check]⟩

end StyleLinter.Aggregator
