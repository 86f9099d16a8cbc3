import StyleLinter.Proofs.Aggregator.Turn
import StyleLinter.Proofs.ModuleName

/-!
# Turn after turn

A run gives one root after the other its turn (`Turns`). It changes no place but those of the
aggregators of its roots (`Turns.changed`), so that **what the aggregator of a root says at the end
is what it said after the last turn of the root** (`current_of_turns`). A check then passes the root
exactly if every file that it finds was there at this turn (`check_of_turns`), and the files that
were not are aggregators that the run has made since (`isThere_iff_of_turns`).

So a check of all roots fails exactly if a root includes an aggregator that comes too late
(`Turns.checks_iff`). A root that is walked includes the aggregators of the roots below it
(`Turns.includes_iff_isBelow`): **a root must have its turn after the roots below it**.
-/

namespace StyleLinter.Aggregator

open Discovery Files

variable {s : Search} {host mid host' : Host} {root : Path} {roots pre post : List Path}

/-- A run in which each root has its turn. -/
inductive Turns (s : Search) : Host → List Path → Host → Prop
  | nil (host : Host) : Turns s host [] host
  | cons {host mid host' : Host} {root : Path} {roots : List Path} {b : Bool}
      (turn : (update s host root).outcome = .ok (mid, b)) (rest : Turns s mid roots host') :
      Turns s host (root :: roots) host'

/-- Does the path of the aggregator of a root lead to a place? -/
def IsAt (s : Search) (host : Host) (root : Path) (place : Place) : Prop :=
  ∃ spot, host.disk.spot (s.base / path root s.extension) = .ok spot ∧ spot.place = place

theorem IsAt.of_grown (hg : host.disk.Grown host'.disk) {place : Place} (h : IsAt s host root place) :
    IsAt s host' root place := by
  obtain ⟨spot, hs, hplace⟩ := h
  exact ⟨spot, hg.spot hs, hplace⟩

/-- **Without links, no two roots have their aggregators at one place.** -/
theorem IsAt.unique (ht : host.disk.tree.Linkless) (hextension : '/' ∉ s.extension) {root' : Path}
    (hroot : IsRoot root) (hroot' : IsRoot root') {place : Place} (h : IsAt s host root place)
    (h' : IsAt s host root' place) : root = root' := by
  obtain ⟨spot, hs, rfl⟩ := h
  obtain ⟨spot', hs', hplace⟩ := h'
  have hpath := Disk.eq_of_spot_place ht (isRoot_path hroot hextension).leadsDown
    (isRoot_path hroot' hextension).leadsDown hs hs' hplace.symm
  exact path_injective hroot hroot' hextension hpath

namespace Turns

theorem append_iff : Turns s host (pre ++ post) host' ↔
    ∃ mid, Turns s host pre mid ∧ Turns s mid post host' := by
  induction pre generalizing host with
  | nil =>
    refine ⟨fun h ↦ ⟨host, .nil host, h⟩, ?_⟩
    rintro ⟨_, ⟨⟩, h⟩
    exact h
  | cons root pre ih =>
    constructor
    · rintro (_ | ⟨turn, rest⟩)
      obtain ⟨mid, hpre, hpost⟩ := ih.mp rest
      exact ⟨mid, .cons turn hpre, hpost⟩
    · rintro ⟨mid, _ | ⟨turn, hpre⟩, hpost⟩
      exact .cons turn (ih.mpr ⟨mid, hpre, hpost⟩)

/-- **A run only adds files**, and the program for version control stays as it is. -/
theorem grown (h : Turns s host roots host') :
    host.disk.Grown host'.disk ∧ host'.git = host.git := by
  induction h with
  | nil => exact ⟨.refl _, rfl⟩
  | cons turn _ ih =>
    obtain ⟨hgrown, hgit, -⟩ := spec_of_update turn
    exact ⟨hgrown.trans ih.1, ih.2.trans hgit⟩

/-- **A run changes no place but those of the aggregators of its roots.** -/
theorem changed (h : Turns s host roots host') (place : Place) :
    host'.disk.tree.node? place = host.disk.tree.node? place ∨
      ∃ root ∈ roots, IsAt s host' root place := by
  induction h with
  | nil => exact .inl rfl
  | @cons host mid host' root roots b turn rest ih =>
    obtain ⟨-, -, spot, hs, -, hframe⟩ := spec_of_update turn
    rcases ih with hsame | ⟨root', hroot', hat⟩
    · by_cases hplace : place = spot.place
      · have hat : IsAt s mid root place := ⟨spot, hs, hplace.symm⟩
        exact .inr ⟨root, List.mem_cons_self, hat.of_grown rest.grown.1⟩
      · exact .inl (hsame.trans (hframe place hplace))
    · exact .inr ⟨root', List.mem_cons_of_mem _ hroot', hat⟩

/-- **After a run every root of it has an aggregator.** -/
theorem exists_aggregator (h : Turns s host roots host') (hroot : root ∈ roots) :
    ∃ spot, host'.disk.spot (s.base / path root s.extension) = .ok spot ∧
      host'.disk.kindAt spot.place = some .file := by
  induction h with
  | nil => exact absurd hroot List.not_mem_nil
  | @cons host mid host' root' roots b turn rest ih =>
    rcases List.mem_cons.mp hroot with rfl | hroot
    · obtain ⟨-, -, spot, hs, hkind, -⟩ := spec_of_update turn
      refine ⟨spot, rest.grown.1.spot hs, ?_⟩
      rcases rest.grown.1.kindAt spot.place with hsame | ⟨-, hfile⟩
      · exact hsame.trans hkind
      · exact hfile
    · exact ih hroot

/-- What a run adds are aggregators, to which paths lead down. -/
theorem gains (h : Turns s host roots host') (hroots : ∀ root ∈ roots, IsRoot root)
    (hextension : '/' ∉ s.extension) : Gains s.base host host' where
  disk := h.grown.1
  git := h.grown.2
  leadsDown place hnone hsome := by
    rcases h.changed place with hsame | ⟨root, hroot, spot, hs, hplace⟩
    · exact absurd (hsame.trans hnone) hsome
    · exact ⟨_, spot, (isRoot_path (hroots root hroot) hextension).leadsDown, hs, hplace⟩

/-- No run gives the current directory a turn. -/
theorem ne_here (h : Turns s host roots host') (hroot : root ∈ roots) : root ≠ Path.here := by
  induction h with
  | nil => exact absurd hroot List.not_mem_nil
  | cons turn _ ih =>
    rcases List.mem_cons.mp hroot with rfl | hroot
    · obtain ⟨modules, -, hmodules, -⟩ := update_eq_ok_iff.mp turn
      obtain ⟨files, hfiles, -⟩ := Search.modules_eq_ok_iff.mp hmodules
      exact (Search.files_eq_ok_iff.mp hfiles).1
    · exact ih hroot

/-- The roots of a run that walks are directories from the start. -/
theorem directory (h : Turns s host roots host') (hlister : s.lister = none) (hroot : root ∈ roots) :
    ∃ spot, host.disk.spot (s.base / root) = .ok spot ∧
      host.disk.kindAt spot.place = some .directory := by
  induction h with
  | nil => exact absurd hroot List.not_mem_nil
  | @cons host mid host' root' roots b turn rest ih =>
    rcases List.mem_cons.mp hroot with rfl | hroot
    · obtain ⟨modules, -, hmodules, -⟩ := update_eq_ok_iff.mp turn
      obtain ⟨files, hfiles, -⟩ := Search.modules_eq_ok_iff.mp hmodules
      obtain ⟨-, candidates, hcandidates, -⟩ := Search.files_eq_ok_iff.mp hfiles
      rw [Search.outcome_candidates_of_walk hlister] at hcandidates
      obtain ⟨spot, hs, hkind, -⟩ := walkRoot_eq_ok_iff.mp hcandidates
      exact ⟨spot, hs, hkind⟩
    · obtain ⟨spot, hs, hkind⟩ := ih hroot
      exact ⟨spot, (spec_of_update turn).1.spot_of_directory hs hkind⟩

end Turns

/-! ### Characters -/

/-- What is asked of a run so that its result can be read back: no links, no carriage returns in
names, and roots that say where they are. -/
structure Regular (s : Search) (host : Host) (roots : List Path) : Prop where
  linkless : host.disk.tree.Linkless
  no_return : host.disk.tree.Lacks '\r'
  isRoot : ∀ root ∈ roots, IsRoot root
  /-- The aggregator of a root is beside it. -/
  no_slash : '/' ∉ s.extension
  /-- No list of names is given. -/
  not_given : ∀ names, s.lister ≠ some (.given names)

theorem Regular.mono (h : Regular s host roots) {roots' : List Path} (hsub : roots' ⊆ roots) :
    Regular s host roots' :=
  { h with isRoot := fun root hroot ↦ h.isRoot root (hsub hroot) }

namespace Turns

variable (h : Turns s host roots mid) (hr : Regular s host roots)

include h hr

/-- The file of a walk, without its extension, is spelled without carriage returns: it was there at
the start, or it is the aggregator of a root that was. -/
theorem no_return_of_walk (hlister : s.lister = none) (hroot : IsRoot root) {names : List Text}
    (hleads : LeadsToSource mid.disk s.extension (s.base / root) names) :
    '\r' ∉ (root.below names).toText.take ((root.below names).toText.length - s.extension.length) := by
  have ht := h.grown.1.tree.linkless hr.linkless
  have hbelow : IsBelow (root.below names) root := ⟨rfl, names, hleads.ne_nil, hleads.isName, rfl⟩
  have hp := hbelow.leadsDown hroot.leadsDown
  have hkind := hleads.kind
  rw [← Path.join_below hroot.leadsDown.slashes] at hkind
  obtain ⟨spot, hs, hfile⟩ := Disk.spot_of_kind? hkind
  have hnode := Disk.node?_of_kindAt hfile
  rcases h.changed spot.place with hsame | ⟨root', hroot', spot', hs', hplace⟩
  · have hnode' : host.disk.tree.node? spot.place ≠ none := hsame ▸ hnode
    have hspot := h.grown.1.spot_of_node? hs hnode'
    have hparts := Disk.not_mem_of_spot_join hr.linkless hr.no_return hp hspot hnode'
    exact fun hmem ↦ Path.not_mem_toText (by decide) (by decide) hparts (List.mem_of_mem_take hmem)
  · have hisRoot := hr.isRoot root' hroot'
    have hpath := Disk.eq_of_spot_place ht (isRoot_path hisRoot hr.no_slash).leadsDown hp hs' hs hplace
    obtain ⟨spotRoot, hspotRoot, hdirectory⟩ := h.directory hlister hroot'
    have hparts := Disk.not_mem_of_spot_join hr.linkless hr.no_return hisRoot.leadsDown hspotRoot
      (Disk.node?_of_kindAt hdirectory)
    rw [← hpath, toText_path hisRoot hr.no_slash, aggregatorText, List.length_append,
      Nat.add_sub_cancel, List.take_left]
    exact Path.not_mem_toText (by decide) (by decide) hparts

/-- **The modules of a root are named without carriage returns**, also where aggregators have been
added. -/
theorem no_return (hroot : IsRoot root) {modules : List Text}
    (hmodules : (s.modules mid root).outcome = .ok modules) : ∀ m ∈ modules, '\r' ∉ m := by
  intro m hm
  obtain ⟨files, hfiles, hnames⟩ := Search.modules_eq_ok_iff.mp hmodules
  obtain ⟨p, hp, hname⟩ := exists_of_mem_mapM hnames hm
  obtain ⟨candidates, hcandidates, hsub⟩ := Search.mem_candidates_of_mem_files hfiles
  have hstem : '\r' ∉ p.toText.take (p.toText.length - s.extension.length) := by
    cases hlister : s.lister with
    | none =>
      rw [Search.outcome_candidates_of_walk hlister] at hcandidates
      obtain ⟨names, hleads, rfl⟩ := (mem_walkRoot_iff hcandidates).mp (hsub p hp)
      exact h.no_return_of_walk hr hlister hroot hleads
    | some lister =>
      cases lister with
      | given names => exact absurd hlister (hr.not_given names)
      | program program =>
        obtain ⟨names, hask, rfl⟩ :=
          (Search.candidates_eq_ok_iff_of_lister hlister).mp hcandidates
        obtain ⟨text, htext, rfl⟩ := List.mem_map.mp (hsub p hp)
        have hreturn := Search.not_mem_of_askProgram hask text (List.mem_filter.mp htext).1
        have hparts : ∀ part ∈ (Path.ofText text).parts, '\r' ∉ part :=
          fun part hpart hc ↦ hreturn (Path.mem_of_mem_parts_ofText hpart hc)
        exact fun hc ↦ Path.not_mem_toText (by decide) (by decide) hparts (List.mem_of_mem_take hc)
  exact ModuleName.not_mem_ofPath (by decide) (by decide) hname hstem

end Turns

/-! ### After the last turn of a root -/

/-- The line of a file in an aggregator. -/
def importLine (extension : Text) (p : Path) : Text :=
  match ModuleName.ofPath p extension with
  | .ok m => "import ".toList ++ m ++ ['\n']
  | .error _ => []

theorem render_eq_flatMap {files : List Path} {extension : Text} {modules : List Text}
    (h : files.mapM (ModuleName.ofPath · extension) = .ok modules) :
    render modules = files.flatMap (importLine extension) := by
  have hall := mapM_eq_ok_iff.mp h
  clear h
  induction hall with
  | nil => rfl
  | @cons p m ps ms hp _ ih =>
    have hline : importLine extension p = "import ".toList ++ m ++ ['\n'] := by rw [importLine, hp]
    rw [List.flatMap_cons, hline, ← ih]
    rfl

/-- **More files make a longer aggregator.** -/
theorem length_render_lt {files files' : List Path} {extension : Text} {modules modules' : List Text}
    (h : files.mapM (ModuleName.ofPath · extension) = .ok modules)
    (h' : files'.mapM (ModuleName.ofPath · extension) = .ok modules') {keeps : Path → Bool}
    (hperm : files.Perm (files'.filter keeps)) {p : Path} (hp : p ∈ files') (hdrop : keeps p = false) :
    (render modules).length < (render modules').length := by
  have hkept := (hperm.flatMap_right (importLine extension)).length_eq
  have hall := ((List.filter_append_perm keeps files').flatMap_right (importLine extension)).length_eq
  rw [List.flatMap_append, List.length_append] at hall
  -- the line of the file that is left out
  have hpos : 0 < ((files'.filter (!keeps ·)).flatMap (importLine extension)).length := by
    obtain ⟨m, -, hm⟩ := exists_mem_of_mapM h' hp
    have hmem : p ∈ files'.filter (!keeps ·) := List.mem_filter.mpr ⟨hp, by rw [hdrop]; rfl⟩
    have hline : '\n' ∈ importLine extension p := by
      rw [importLine, hm]
      exact List.mem_append_right _ (List.mem_singleton_self _)
    exact List.length_pos_of_mem (List.mem_flatMap.mpr ⟨p, hmem, hline⟩)
  rw [render_eq_flatMap h, render_eq_flatMap h', hkept]
  omega

/-- Is the aggregator of one root among the files of the other? -/
def Includes (s : Search) (host : Host) (outer inner : Path) : Prop :=
  ∃ files, (s.files host outer).outcome = .ok files ∧ ∃ p ∈ files, ∃ spot,
    host.disk.spot (s.base / p) = .ok spot ∧
      host.disk.spot (s.base / path inner s.extension) = .ok spot

section LastTurn

variable (hr : Regular s host (pre ++ root :: post)) (hpre : Turns s host pre mid)
  (hpost : Turns s mid (root :: post) host')

include hr hpre hpost

/-- **The aggregator of a root says at the end what it said after the last turn of the root.** -/
theorem current_of_turns (hlast : root ∉ post) {modules : List Text}
    (hmodules : (s.modules mid root).outcome = .ok modules) :
    current host' (s.base / path root s.extension) = .ok (some (render modules)) := by
  have hroot := hr.isRoot root (List.mem_append_right _ List.mem_cons_self)
  have ht := hpost.grown.1.tree.linkless (hpre.grown.1.tree.linkless hr.linkless)
  cases hpost with
  | @cons _ mid' _ _ _ _ turn rest =>
    have hreturn := hpre.no_return (hr.mono (List.subset_append_left _ _)) hroot hmodules
    have hcurrent := current_of_update turn hmodules hreturn
    obtain ⟨-, -, spot, hs, -⟩ := spec_of_update turn
    have hs' := rest.grown.1.spot hs
    rcases rest.changed spot.place with hsame | ⟨root', hroot', hat⟩
    · exact (current_of_frame hs hs' hsame).trans hcurrent
    · -- no later root has its aggregator at this place
      have hisRoot := hr.isRoot root' (List.mem_append_right _ (List.mem_cons_of_mem _ hroot'))
      obtain rfl := hat.unique ht hr.no_slash hisRoot hroot ⟨spot, hs', rfl⟩
      exact absurd hroot' hlast

/-- **A check passes a root exactly if every file that it finds was there at the last turn of the
root.** -/
theorem check_of_turns (hlast : root ∉ post) : ∃ files, (s.files host' root).outcome = .ok files ∧
    ((check s host' root).outcome = .ok true ↔ ∀ p ∈ files, s.isThere mid p = true) := by
  have hroot := hr.isRoot root (List.mem_append_right _ List.mem_cons_self)
  have ht := hpost.grown.1.tree.linkless (hpre.grown.1.tree.linkless hr.linkless)
  have hgains := hpost.gains (hr.mono (List.subset_append_right _ _)).isRoot hr.no_slash
  obtain ⟨modules, hmodules⟩ : ∃ modules, (s.modules mid root).outcome = .ok modules := by
    cases hpost with
    | cons turn _ =>
      obtain ⟨modules, -, hmodules, -⟩ := update_eq_ok_iff.mp turn
      exact ⟨modules, hmodules⟩
  have hcurrent := current_of_turns hr hpre hpost hlast hmodules
  obtain ⟨files, hfiles, hnames⟩ := Search.modules_eq_ok_iff.mp hmodules
  obtain ⟨files', hfiles', hperm⟩ := Search.files_of_gains hgains ht hroot.leadsDown hfiles
  refine ⟨files', hfiles', fun hcheck p hp ↦ ?_, fun hthere ↦ ?_⟩
  · -- a file that was not there would make the aggregator longer
    obtain ⟨modules', text, hmodules', htext, hrender⟩ := check_eq_ok_iff.mp hcheck
    obtain rfl := Except.ok.inj (hcurrent.symm.trans htext)
    have hrender := Option.some.inj (of_decide_eq_true hrender.symm)
    obtain ⟨_, hfiles'', hnames'⟩ := Search.modules_eq_ok_iff.mp hmodules'
    obtain rfl := Except.ok.inj (hfiles'.symm.trans hfiles'')
    by_contra hdrop
    have hlt := length_render_lt hnames hnames' hperm hp (Bool.eq_false_iff.mpr hdrop)
    rw [hrender] at hlt
    exact Nat.lt_irrefl _ hlt
  · rw [List.filter_eq_self.mpr hthere] at hperm
    obtain rfl := Search.eq_of_perm_of_files hroot.normal hfiles hfiles' hperm
    refine check_eq_ok_iff.mpr ⟨modules, _, ?_, hcurrent, (decide_eq_true rfl).symm⟩
    exact Search.modules_eq_ok_iff.mpr ⟨files, hfiles', hnames⟩

/-- **An aggregator is missing at the last turn of the root** exactly if it was missing at the start
and its own root has not had a turn. -/
theorem missing_iff_of_turns {inner : Path} (hinner : inner ∈ root :: post) {spot : Spot}
    (hs : host'.disk.spot (s.base / path inner s.extension) = .ok spot) :
    mid.disk.tree.node? spot.place = none ↔
      inner ∉ pre ∧ host.disk.exists? (s.base / path inner s.extension) = .ok false := by
  have hgrown := hpre.grown.1.trans hpost.grown.1
  have ht' := hgrown.tree.linkless hr.linkless
  have hisRoot := hr.isRoot inner (List.mem_append_right _ hinner)
  constructor
  · intro hnone
    refine ⟨fun hbefore ↦ ?_, ?_⟩
    · obtain ⟨spot', hs', hkind⟩ := hpre.exists_aggregator hbefore
      obtain rfl := Except.ok.inj ((hpost.grown.1.spot hs').symm.trans hs)
      exact Disk.node?_of_kindAt hkind hnone
    · obtain ⟨spot', hs', hkind⟩ := hpost.exists_aggregator hinner
      obtain rfl := Except.ok.inj (hs.symm.trans hs')
      have hnode := Disk.node?_of_kindAt hkind
      rcases hgrown.exists? (s.base / path inner s.extension) with hsame | ⟨hfalse, -⟩
      · -- what was there at the start would not be missing
        have hexists := hsame.symm.trans (Disk.exists?_of_spot ht' hs hnode)
        obtain ⟨spot', hs', hstart⟩ := Disk.spot_of_exists? hexists
        obtain rfl := Except.ok.inj ((hgrown.spot hs').symm.trans hs)
        exact absurd hnone (hpre.grown.1.tree.within.ne_none hstart)
      · exact hfalse
  · rintro ⟨hbefore, hmissing⟩
    by_contra hnode
    rcases hpre.changed spot.place with hsame | ⟨root', hroot', hat⟩
    · rw [hsame] at hnode
      have hexists := Disk.exists?_of_spot hr.linkless (hgrown.spot_of_node? hs hnode) hnode
      exact absurd (hmissing.symm.trans hexists) nofun
    · have hisRoot' := hr.isRoot root' (List.mem_append_left _ hroot')
      obtain rfl := (hat.of_grown hpost.grown.1).unique ht' hr.no_slash hisRoot' hisRoot ⟨spot, hs, rfl⟩
      exact hbefore hroot'

/-- **A file that was not there at the last turn of the root is an aggregator** that was missing
then. -/
theorem isThere_iff_of_turns {files : List Path} (hfiles : (s.files host' root).outcome = .ok files) :
    (∀ p ∈ files, s.isThere mid p = true) ↔ ∀ inner ∈ root :: post, inner ∉ pre →
      host.disk.exists? (s.base / path inner s.extension) = .ok false →
        ¬ Includes s host' root inner := by
  have ht' := (hpre.grown.1.trans hpost.grown.1).tree.linkless hr.linkless
  constructor
  · rintro hthere inner hinner hbefore hmissing ⟨files', hfiles', p, hp, spot, hs, htarget⟩
    obtain rfl := Except.ok.inj (hfiles.symm.trans hfiles')
    obtain ⟨spot', hs', hnode⟩ := Disk.spot_of_exists? (Search.isThere_iff.mp (hthere p hp))
    obtain rfl := Except.ok.inj ((hpost.grown.1.spot hs').symm.trans hs)
    exact hnode ((missing_iff_of_turns hr hpre hpost hinner htarget).mpr ⟨hbefore, hmissing⟩)
  · intro hnone p hp
    obtain ⟨candidates, hcandidates, -⟩ := Search.mem_candidates_of_mem_files hfiles
    have hexists := ((Search.mem_files_iff hfiles hcandidates).mp hp).2.2
    rw [Search.isThere_iff]
    rcases hpost.grown.1.exists? (s.base / p) with hsame | ⟨-, -, spot, hs, hnew⟩
    · exact hsame.symm.trans hexists
    · obtain ⟨spot', hs', hnode⟩ := Disk.spot_of_exists? hexists
      obtain rfl := Except.ok.inj (hs.symm.trans hs')
      rcases hpost.changed spot.place with hsame | ⟨inner, hinner, spot', htarget, hplace⟩
      · exact absurd (hsame.trans hnew) hnode
      · obtain rfl := Disk.eq_of_place ht' htarget hs hplace
        obtain ⟨hbefore, hmissing⟩ :=
          (missing_iff_of_turns hr hpre hpost hinner htarget).mp hnew
        exact absurd ⟨files, hfiles, p, hp, spot', hs, htarget⟩ (hnone inner hinner hbefore hmissing)

end LastTurn

/-! ### All roots -/

/-- Does the first turn of the inner root not come before the last turn of the outer root? -/
def Late (roots : List Path) (outer inner : Path) : Prop :=
  ∃ pre post, roots = pre ++ outer :: post ∧ outer ∉ post ∧ inner ∈ outer :: post ∧ inner ∉ pre

theorem exists_last_of_mem (h : root ∈ roots) :
    ∃ pre post, roots = pre ++ root :: post ∧ root ∉ post := by
  induction roots with
  | nil => exact absurd h List.not_mem_nil
  | cons root' roots ih =>
    by_cases hlater : root ∈ roots
    · obtain ⟨pre, post, rfl, hlast⟩ := ih hlater
      exact ⟨root' :: pre, post, rfl, hlast⟩
    · obtain rfl := (List.mem_cons.mp h).resolve_right hlater
      exact ⟨[], roots, rfl, hlater⟩

/-- After a run the files of its roots can be found. -/
theorem Turns.exists_files (h : Turns s host roots host') (hr : Regular s host roots)
    (hroot : root ∈ roots) : ∃ files, (s.files host' root).outcome = .ok files := by
  obtain ⟨pre, post, rfl, hlast⟩ := exists_last_of_mem hroot
  obtain ⟨mid, hpre, hpost⟩ := Turns.append_iff.mp h
  obtain ⟨files, hfiles, -⟩ := check_of_turns hr hpre hpost hlast
  exact ⟨files, hfiles⟩

/-- **A root that is walked includes the aggregators of the roots below it.** -/
theorem Turns.includes_iff_isBelow {outer inner : Path} (h : Turns s host roots host')
    (hr : Regular s host roots) (hlister : s.lister = none) (houter : outer ∈ roots)
    (hinner : inner ∈ roots) : Includes s host' outer inner ↔ IsBelow inner outer := by
  have ht := h.grown.1.tree.linkless hr.linkless
  have hisRoot := hr.isRoot inner hinner
  have hisOuter := hr.isRoot outer houter
  have hpath := isRoot_path hisRoot hr.no_slash
  obtain ⟨spot, hs, hkind⟩ := h.exists_aggregator hinner
  rw [← isBelow_path_iff hisRoot hr.no_slash]
  constructor
  · rintro ⟨files', hfiles', p, hp, spot', hs', htarget⟩
    have hbelow := Search.isBelow_of_mem_files hlister hfiles' hp
    have hleads : p.LeadsDown := hbelow.leadsDown hisOuter.leadsDown
    rwa [← Disk.eq_of_spot_place ht hleads hpath.leadsDown hs' htarget rfl]
  · intro hbelow
    obtain ⟨files, hfiles⟩ := h.exists_files hr houter
    obtain ⟨candidates, hcandidates, -⟩ := Search.mem_candidates_of_mem_files hfiles
    refine ⟨files, hfiles, _, (Search.mem_files_iff hfiles hcandidates).mpr ⟨?_, ?_, ?_⟩, spot, hs, hs⟩
    · rw [Search.outcome_candidates_of_walk hlister] at hcandidates
      obtain ⟨hslashes, names, hne, hnames, hparts⟩ := hbelow
      have he : path inner s.extension = outer.below names :=
        Path.eq_of_parts_eq hslashes hparts
      refine (mem_walkRoot_iff hcandidates).mpr ⟨names, ⟨hnames, ?_, ?_⟩, he⟩
      · obtain ⟨front, last, hlast⟩ := (List.eq_nil_or_concat names).resolve_left hne
        rw [hlast, List.concat_eq_append, ← List.append_assoc] at hparts
        exact ⟨front, last, hlast.trans (List.concat_eq_append ..),
          hasExtension_path hisRoot hr.no_slash hparts⟩
      · rw [← Path.join_below hisOuter.leadsDown.slashes, ← he, Disk.kind?_of_spot hs, hkind]
    · rw [← toText_path hisOuter hr.no_slash]
      intro htext
      have hsame := Path.eq_of_toText_eq hpath.normal (isRoot_path hisOuter hr.no_slash).normal htext
      obtain rfl := path_injective hisRoot hisOuter hr.no_slash hsame
      exact not_isBelow_self _ ((isBelow_path_iff hisRoot hr.no_slash).mp hbelow)
    · rw [Disk.exists?, Disk.kind?_of_spot hs, hkind]
      rfl

/-- **A check after a run passes** unless some root includes an aggregator that was missing at the
start and that the run has made after the last turn of the root. -/
theorem Turns.checks_iff (h : Turns s host roots host') (hr : Regular s host roots) :
    (∀ root ∈ roots, (check s host' root).outcome = .ok true) ↔ ∀ outer inner, Late roots outer inner →
      host.disk.exists? (s.base / path inner s.extension) = .ok false →
        ¬ Includes s host' outer inner := by
  have hcheck {pre post : List Path} {root : Path} (hsplit : roots = pre ++ root :: post)
      (hlast : root ∉ post) : (check s host' root).outcome = .ok true ↔
        ∀ inner ∈ root :: post, inner ∉ pre →
          host.disk.exists? (s.base / path inner s.extension) = .ok false →
            ¬ Includes s host' root inner := by
    subst hsplit
    obtain ⟨mid, hpre, hpost⟩ := Turns.append_iff.mp h
    obtain ⟨files, hfiles, hcheck⟩ := check_of_turns hr hpre hpost hlast
    exact hcheck.trans (isThere_iff_of_turns hr hpre hpost hfiles)
  constructor
  · rintro hall outer inner ⟨pre, post, hsplit, hlast, hinner, hbefore⟩
    have houter : outer ∈ roots := hsplit ▸ List.mem_append_right _ List.mem_cons_self
    exact (hcheck hsplit hlast).mp (hall outer houter) inner hinner hbefore
  · intro hnone root hroot
    obtain ⟨pre, post, hsplit, hlast⟩ := exists_last_of_mem hroot
    exact (hcheck hsplit hlast).mpr fun inner hinner hbefore ↦
      hnone root inner ⟨pre, post, hsplit, hlast, hinner, hbefore⟩

end StyleLinter.Aggregator
