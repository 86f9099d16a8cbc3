import Mathlib.Data.List.Nodup
import StyleLinter.Proofs.Discovery.Found
import StyleLinter.Proofs.Files.Additions

/-!
# What a walk finds

A walk looks at a name the way anything looks at a path: it asks what is there (`lookUp_eq`). So **a
walk that ends well has found exactly the regular files below its directory that have the
extension** (`mem_walk_iff`), each of them once (`nodup_walk`).

In a tree that has gained files a walk still ends well, if the paths of the new files can be asked
about (`exists_walkRoot_of_gains`), and what it found before is what it finds now, the new files
left out (`mem_walkRoot_of_grown`).
-/

namespace StyleLinter

namespace Files.Tree

variable {t : Tree} {dir : Place} {name : Text}

/-! ### The names in a directory -/

theorem node?_ne_none_iff {p : Place} (hp : p ≠ []) :
    t.node? p ≠ none ↔ p ∈ t.nodes.map (·.1) := by
  rw [node?, if_neg hp, Ne, Option.map_eq_none_iff, List.find?_eq_none, List.mem_map]
  push Not
  simp only [decide_eq_true_eq]

/-- The name of a place in its directory. -/
theorem name_eq_some_iff {p : Place} :
    (if p.dropLast = dir then p.getLast? else none) = some name ↔ p = dir ++ [name] := by
  constructor
  · intro h
    split at h
    · next hdir =>
      obtain ⟨front, rfl⟩ := List.getLast?_eq_some_iff.mp h
      rw [← hdir, List.dropLast_concat]
    · exact absurd h nofun
  · rintro rfl
    rw [List.dropLast_concat, if_pos rfl, List.getLast?_concat]

/-- A directory has the names of the nodes one place further down. -/
theorem mem_names_iff : name ∈ t.names dir ↔ isName name = true ∧ t.node? (dir ++ [name]) ≠ none := by
  have hne : dir ++ [name] ≠ [] := List.append_ne_nil_of_right_ne_nil _ (List.cons_ne_nil _ _)
  rw [names, List.mem_mergeSort, List.mem_filter, and_comm, node?_ne_none_iff hne, List.mem_filterMap,
    List.mem_map]
  exact and_congr_right fun _ ↦ exists_congr fun e ↦ and_congr_right fun _ ↦ name_eq_some_iff

/-- **No directory has a name twice.** -/
theorem nodup_names (t : Tree) (dir : Place) : (t.names dir).Nodup := by
  refine (List.mergeSort_perm _ _).nodup_iff.mpr (List.filter_sublist.nodup ?_)
  have hplaces : t.nodes.filterMap (fun e ↦ if e.1.dropLast = dir then e.1.getLast? else none) =
      (t.nodes.map (·.1)).filterMap fun p ↦ if p.dropLast = dir then p.getLast? else none := by
    rw [List.filterMap_map]
    rfl
  rw [hplaces]
  refine List.Nodup.filterMap (fun p q name hp hq ↦ ?_) t.nodup
  rw [name_eq_some_iff.mp hp, name_eq_some_iff.mp hq]

/-- A route goes on by a name that is there. -/
theorem node?_ne_none_of_follow {links : Nat} {rest : List Text} {s : Spot} (hdot : name ≠ ".")
    (hdots : name ≠ "..") (h : t.follow links dir (name :: rest) = .ok (.found s)) :
    t.node? (dir ++ [name]) ≠ none := by
  intro hnone
  rw [follow] at h
  split at h
  · cases h
  · simp only [if_neg hdot, if_neg hdots] at h
    split at h
    · cases h
    · rw [hnone] at h
      dsimp only at h
      split at h <;> cases h

end Files.Tree

theorem Files.Disk.namesAt_eq_ok_iff {d : Files.Disk} {place : Files.Place} {names : List Text} :
    d.namesAt place = .ok names ↔ ∃ rights : Files.Rights,
      d.tree.node? place = some (.directory rights) ∧ rights.read = true ∧ names = d.tree.names place := by
  unfold namesAt
  constructor
  · intro h
    split at h
    · next rights hn =>
      split at h
      · next hread => exact ⟨rights, hn, hread, (Except.ok.inj h).symm⟩
      · exact absurd h nofun
    · exact absurd h nofun
    · exact absurd h nofun
  · rintro ⟨rights, hn, hread, rfl⟩
    simp only [hn, hread, if_true]

namespace Discovery

open Files

variable {d d' : Disk} {extension : Text} {directory relative : Path} {spot : Spot}

/-! ### Looking at a name -/

/-- What the answer to the question what a path leads to is for a walk. -/
def Item.ofSpot (d : Disk) : Except Obstacle Spot → Except Obstacle Item
  | .ok s =>
    match d.kindAt s.place with
    | some .directory => .ok (.directory s)
    | some .file => .ok .file
    | none => .ok .nothing
  | .error .nul => .ok .nothing
  | .error (.refused r) => if r.meansNothingThere then .ok .nothing else .error (.refused r)

theorem refusal_of_admissible {p : Path} {r : Refusal}
    (h : Disk.admissible p = .error (.refused r)) : r = .nameTooLong := by
  unfold Disk.admissible at h
  split at h
  · exact absurd h nofun
  · split at h
    · exact (Obstacle.refused.inj (Except.error.inj h)).symm
    · exact absurd h nofun

/-- **A walk looks at a name by its path.** -/
theorem lookUp_eq (hs : d.spot directory = .ok spot) (name : Text) :
    lookUp d spot (directory.child name) name = Item.ofSpot d (d.spot (directory.child name)) := by
  rw [Path.child_eq_below, lookUp, Disk.spot]
  cases ha : Disk.admissible (directory.below [name]) with
  | error o =>
    have hland : d.land (directory.below [name]) = .error o := by rw [Disk.land, ha]
    rw [hland]
    cases o with
    | nul => rfl
    | refused r =>
      obtain rfl := refusal_of_admissible ha
      rfl
  | ok =>
    rw [Disk.land_below hs (List.cons_ne_nil _ _) ha]
    cases d.tree.follow spot.links spot.place [name] with
    | error r => rfl
    | ok l =>
      cases l with
      | vacant => rfl
      | found s => rfl

/-- The kind of what a name leads to. -/
def Item.kind : Item → Option Kind
  | .directory _ => some .directory
  | .file => some .file
  | .nothing => none

theorem kind?_child (hs : d.spot directory = .ok spot) (name : Text) :
    d.kind? (directory.child name) = (lookUp d spot (directory.child name) name).map Item.kind := by
  rw [lookUp_eq hs, Disk.kind?]
  cases d.spot (directory.child name) with
  | error o =>
    cases o with
    | nul => rfl
    | refused r =>
      dsimp only [Item.ofSpot]
      cases r.meansNothingThere <;> rfl
  | ok s =>
    dsimp only [Item.ofSpot]
    cases d.kindAt s.place with
    | none => rfl
    | some k => cases k <;> rfl

theorem spot_of_lookUp (hs : d.spot directory = .ok spot) {name : Text} {s : Spot}
    (h : lookUp d spot (directory.child name) name = .ok (.directory s)) :
    d.spot (directory.child name) = .ok s ∧ d.kindAt s.place = some .directory := by
  rw [lookUp_eq hs] at h
  cases hspot : d.spot (directory.child name) with
  | error o =>
    rw [hspot] at h
    unfold Item.ofSpot at h
    split at h
    · next he => exact absurd he nofun
    · exact absurd h nofun
    · split at h <;> exact absurd h nofun
  | ok s' =>
    rw [hspot, Item.ofSpot] at h
    split at h
    · next hkind =>
      obtain rfl := Item.directory.inj (Except.ok.inj h)
      exact ⟨rfl, hkind⟩
    · exact absurd h nofun
    · exact absurd h nofun

/-- What a path leads to is a directory, if something is below it. -/
theorem kindAt_of_spot_below {p : Path} {names : List Text} (hnames : names ≠ []) {s' : Spot}
    (h : d.spot (p.below names) = .ok s') :
    ∃ s, d.spot p = .ok s ∧ d.kindAt s.place = some .directory := by
  obtain ⟨s, hs, hf⟩ := Disk.exists_spot_of_spot_below hnames h
  obtain ⟨name, rest, rfl⟩ := List.exists_cons_of_ne_nil hnames
  refine ⟨s, hs, ?_⟩
  rw [Tree.follow] at hf
  split at hf
  · cases hf
  · next hp =>
    obtain ⟨rights, hn, -⟩ := Tree.node?_of_passage hp
    rw [Disk.kindAt, hn]

/-! ### What is found -/

/-- Do the names lead from a directory to a file with the extension? -/
structure LeadsToSource (d : Disk) (extension : Text) (directory : Path) (names : List Text) :
    Prop where
  isName : ∀ n ∈ names, Tree.isName n = true
  /-- The last name has the extension. -/
  hasExtension : ∃ front name, names = front ++ [name] ∧ hasExtension extension name = true
  kind : d.kind? (directory.below names) = .ok (some .file)

theorem LeadsToSource.ne_nil {names : List Text} (h : LeadsToSource d extension directory names) :
    names ≠ [] := by
  obtain ⟨front, name, rfl, -⟩ := h.hasExtension
  exact List.append_ne_nil_of_right_ne_nil _ (List.cons_ne_nil _ _)

/-- Names lead to a file by their first name, which the directory has. -/
theorem leadsToSource_cons_iff {name : Text} {names : List Text} (hnames : names ≠ []) :
    LeadsToSource d extension directory (name :: names) ↔
      Tree.isName name = true ∧ LeadsToSource d extension (directory.child name) names := by
  constructor
  · rintro ⟨hname, ⟨front, last, hlast, hextension⟩, hkind⟩
    refine ⟨hname _ List.mem_cons_self, fun n hn ↦ hname n (List.mem_cons_of_mem _ hn), ?_,
      Path.child_below directory name names ▸ hkind⟩
    cases front with
    | nil => exact absurd (List.cons.inj hlast).2 hnames
    | cons _ front => exact ⟨front, last, (List.cons.inj hlast).2, hextension⟩
  · rintro ⟨hname, hnames, ⟨front, last, rfl, hextension⟩, hkind⟩
    refine ⟨fun n hn ↦ ?_, ⟨name :: front, last, rfl, hextension⟩,
      (Path.child_below directory name _).symm ▸ hkind⟩
    rcases List.mem_cons.mp hn with rfl | hn
    · exact hname
    · exact hnames n hn

/-- Names that lead to a file go on from a directory. -/
theorem kindAt_of_leadsToSource {name : Text} {names : List Text}
    (h : LeadsToSource d extension directory (name :: names)) :
    ∃ s, d.spot (directory.child name) = .ok s ∧
      d.kindAt s.place = some (if names = [] then .file else .directory) := by
  obtain ⟨s, hs, hkind⟩ := Disk.spot_of_kind? h.kind
  by_cases hnames : names = []
  · subst hnames
    exact ⟨s, hs, hkind⟩
  · rw [if_neg hnames]
    rw [← Path.child_below] at hs
    exact kindAt_of_spot_below hnames hs

theorem leadsToSource_singleton_iff {name : Text} : LeadsToSource d extension directory [name] ↔
    Tree.isName name = true ∧ hasExtension extension name = true ∧
      d.kind? (directory.child name) = .ok (some .file) := by
  constructor
  · rintro ⟨hname, ⟨front, last, hlast, hextension⟩, hkind⟩
    obtain ⟨rfl, rfl⟩ : front = [] ∧ name = last := by
      cases front with
      | nil => exact ⟨rfl, (List.cons.inj hlast).1⟩
      | cons _ front => exact absurd (List.cons.inj hlast).2.symm (by simp)
    exact ⟨hname _ List.mem_cons_self, hextension, hkind⟩
  · rintro ⟨hname, hextension, hkind⟩
    exact ⟨fun n hn ↦ List.mem_singleton.mp hn ▸ hname, ⟨[], name, rfl, hextension⟩, hkind⟩

theorem nil_iff_of_leadsToSource {name : Text} {names : List Text} {s : Spot} {k : Kind}
    (h : LeadsToSource d extension directory (name :: names))
    (hs : d.spot (directory.child name) = .ok s) (hk : d.kindAt s.place = some k) :
    names = [] ↔ k = .file := by
  obtain ⟨s', hs', hk'⟩ := kindAt_of_leadsToSource h
  obtain rfl := Except.ok.inj (hs.symm.trans hs')
  obtain rfl := Option.some.inj (hk.symm.trans hk')
  by_cases hnames : names = []
  · simp only [hnames, if_true]
  · simp only [hnames, if_false, reduceCtorEq]

theorem lookUp_eq_directory (hs : d.spot directory = .ok spot) {name : Text} {s : Spot}
    (hspot : d.spot (directory.child name) = .ok s) (hkind : d.kindAt s.place = some .directory) :
    lookUp d spot (directory.child name) name = .ok (.directory s) := by
  rw [lookUp_eq hs, hspot, Item.ofSpot, hkind]

/-- **A visit** walks the directory that the name leads to, or takes the file, or takes nothing. -/
theorem visit_cases (hs : d.spot directory = .ok spot) {name : Text} {qs : List Path}
    (h : visit d extension directory relative spot name = .ok qs) :
    (∃ s, d.spot (directory.child name) = .ok s ∧ d.kindAt s.place = some .directory ∧
      walk d extension (directory.child name) (relative.child name) s = .ok qs) ∨
    (∃ s, d.spot (directory.child name) = .ok s ∧ d.kindAt s.place = some .file ∧
      qs = if hasExtension extension name then [relative.child name] else []) ∨
    (∀ s, d.spot (directory.child name) = .ok s → d.kindAt s.place = none) ∧ qs = [] := by
  rw [visit, lookUp_eq hs] at h
  cases hspot : d.spot (directory.child name) with
  | error o =>
    rw [hspot] at h
    refine .inr (.inr ⟨nofun, ?_⟩)
    cases o with
    | nul => exact (Except.ok.inj h).symm
    | refused r =>
      rw [Item.ofSpot] at h
      split at h
      · exact absurd h nofun
      · next hitem =>
        split at hitem <;> exact absurd hitem nofun
      · next hitem =>
        split at hitem <;> exact absurd hitem nofun
      · exact (Except.ok.inj h).symm
  | ok s =>
    rw [hspot, Item.ofSpot] at h
    cases hkind : d.kindAt s.place with
    | none =>
      rw [hkind] at h
      refine .inr (.inr ⟨fun s' hs' ↦ ?_, (Except.ok.inj h).symm⟩)
      rw [← Except.ok.inj hs', hkind]
    | some k =>
      rw [hkind] at h
      cases k with
      | file => exact .inr (.inl ⟨s, rfl, hkind, (Except.ok.inj h).symm⟩)
      | directory => exact .inl ⟨s, rfl, hkind, h⟩

/-- **What a visit finds**, if a walk finds it in the directory that the name may lead to. -/
theorem mem_visit_iff (hs : d.spot directory = .ok spot) {name : Text}
    (hname : Tree.isName name = true) {qs : List Path}
    (h : visit d extension directory relative spot name = .ok qs)
    (ih : ∀ s, d.spot (directory.child name) = .ok s → d.kindAt s.place = some .directory →
      walk d extension (directory.child name) (relative.child name) s = .ok qs → ∀ p, p ∈ qs ↔
        ∃ names, LeadsToSource d extension (directory.child name) names ∧
          p = (relative.child name).below names) (p : Path) :
    p ∈ qs ↔ ∃ names, LeadsToSource d extension directory (name :: names) ∧
      p = relative.below (name :: names) := by
  rcases visit_cases hs h with ⟨s, hspot, hkind, hwalk⟩ | ⟨s, hspot, hkind, rfl⟩ | ⟨hnone, rfl⟩
  · rw [ih s hspot hkind hwalk p]
    refine exists_congr fun names ↦ ?_
    rw [Path.child_below]
    refine and_congr_left fun _ ↦ ⟨fun hleads ↦ ?_, fun hleads ↦ ?_⟩
    · exact (leadsToSource_cons_iff hleads.ne_nil).mpr ⟨hname, hleads⟩
    · have hnames : names ≠ [] := fun hnil ↦
        absurd ((nil_iff_of_leadsToSource hleads hspot hkind).mp hnil) nofun
      exact ((leadsToSource_cons_iff hnames).mp hleads).2
  · have hfile : d.kind? (directory.child name) = .ok (some .file) := by
      rw [Disk.kind?_of_spot hspot, hkind]
    rw [List.mem_ite_nil_right, List.mem_singleton]
    constructor
    · rintro ⟨hextension, rfl⟩
      exact ⟨[], leadsToSource_singleton_iff.mpr ⟨hname, hextension, hfile⟩, rfl⟩
    · rintro ⟨names, hleads, rfl⟩
      obtain rfl := (nil_iff_of_leadsToSource hleads hspot hkind).mpr rfl
      exact ⟨(leadsToSource_singleton_iff.mp hleads).2.1, rfl⟩
  · refine ⟨fun hp ↦ absurd hp List.not_mem_nil, ?_⟩
    rintro ⟨names, hleads, -⟩
    obtain ⟨s, hs, hkindAt⟩ := kindAt_of_leadsToSource hleads
    exact absurd (hkindAt.symm.trans (hnone s hs)) nofun

/-- The directory has every name that leads somewhere. -/
theorem mem_of_spot_child (hs : d.spot directory = .ok spot) {names : List Text}
    (hn : d.namesAt spot.place = .ok names) {name : Text} (hname : Tree.isName name = true) {s : Spot}
    (hspot : d.spot (directory.child name) = .ok s) : name ∈ names := by
  obtain ⟨spot', hs', hf⟩ := Disk.exists_spot_of_spot_below (List.cons_ne_nil _ _) hspot
  obtain rfl := Except.ok.inj (hs.symm.trans hs')
  obtain ⟨-, -, -, rfl⟩ := Disk.namesAt_eq_ok_iff.mp hn
  obtain ⟨-, hdot, hdots, -⟩ := Tree.isName_iff.mp hname
  exact Tree.mem_names_iff.mpr ⟨hname, Tree.node?_ne_none_of_follow hdot hdots hf⟩

/-- **A walk that ends well has found exactly the files below its directory that have the
extension.** -/
theorem mem_walk_iff (hs : d.spot directory = .ok spot) {ps : List Path}
    (h : walk d extension directory relative spot = .ok ps) {p : Path} :
    p ∈ ps ↔ ∃ names, LeadsToSource d extension directory names ∧ p = relative.below names := by
  -- a walk visits the names of its directory, and a visit may walk the directory below
  induction directory, relative, spot using walk.induct d generalizing ps p with
  | case1 directory relative spot o hn =>
    rw [walk_eq, hn] at h
    cases h
  | case2 directory relative spot names hn ih =>
    rw [walk_eq, hn] at h
    obtain ⟨pss, hpss, rfl⟩ := map_eq_ok_iff.mp h
    rw [mem_flatten_of_mapM hpss]
    have hvisit {name : Text} (hname : name ∈ names) {qs : List Path}
        (hqs : visit d extension directory relative spot name = .ok qs) :=
      mem_visit_iff hs (d.isName_of_namesAt hn hname) hqs
        (fun s hspot hkind hwalk p ↦
          ih name hname s (lookUp_eq_directory hs hspot hkind) hspot hwalk) p
    constructor
    · rintro ⟨name, hname, qs, hqs, hp⟩
      obtain ⟨rest, hleads, rfl⟩ := (hvisit hname hqs).mp hp
      exact ⟨name :: rest, hleads, rfl⟩
    · rintro ⟨path, hleads, rfl⟩
      obtain ⟨name, rest, rfl⟩ := List.exists_cons_of_ne_nil hleads.ne_nil
      obtain ⟨s, hspot, -⟩ := kindAt_of_leadsToSource hleads
      have hname : name ∈ names :=
        mem_of_spot_child hs hn (hleads.isName name List.mem_cons_self) hspot
      obtain ⟨qs, -, hqs⟩ := exists_mem_of_mapM hpss hname
      exact ⟨name, hname, qs, hqs, (hvisit hname hqs).mpr ⟨rest, hleads, rfl⟩⟩

/-- What is found under a name has this name on the way. -/
theorem eq_below_of_mem_visit (hs : d.spot directory = .ok spot) {name : Text}
    (hname : Tree.isName name = true) {qs : List Path}
    (h : visit d extension directory relative spot name = .ok qs) {p : Path} (hp : p ∈ qs) :
    ∃ names, p = relative.below (name :: names) := by
  have hvisit := mem_visit_iff hs hname h (fun s hspot _ hwalk p ↦ mem_walk_iff hspot hwalk) p
  obtain ⟨names, -, he⟩ := hvisit.mp hp
  exact ⟨names, he⟩

/-- **A walk finds each file once.** -/
theorem nodup_walk (hs : d.spot directory = .ok spot) {ps : List Path}
    (h : walk d extension directory relative spot = .ok ps) : ps.Nodup := by
  induction directory, relative, spot using walk.induct d generalizing ps with
  | case1 directory relative spot o hn =>
    rw [walk_eq, hn] at h
    cases h
  | case2 directory relative spot names hn ih =>
    rw [walk_eq, hn] at h
    obtain ⟨pss, hpss, rfl⟩ := map_eq_ok_iff.mp h
    refine List.nodup_flatten.mpr ⟨fun qs hqs ↦ ?_, ?_⟩
    · obtain ⟨name, hname, hvisit⟩ := exists_of_mem_mapM hpss hqs
      rcases visit_cases hs hvisit with ⟨s, hspot, hkind, hwalk⟩ | ⟨s, -, -, rfl⟩ | ⟨-, rfl⟩
      · exact ih name hname s (lookUp_eq_directory hs hspot hkind) hspot hwalk
      · split
        · exact List.nodup_singleton _
        · exact List.nodup_nil
      · exact List.nodup_nil
    · obtain ⟨-, -, -, rfl⟩ := Disk.namesAt_eq_ok_iff.mp hn
      -- paths with different names on the way are different
      have hne : (d.tree.names spot.place).Pairwise fun name name' ↦ name ∈ d.tree.names spot.place ∧
          name' ∈ d.tree.names spot.place ∧ name ≠ name' :=
        (Tree.nodup_names _ _).imp_of_mem fun hname hname' hne ↦ ⟨hname, hname', hne⟩
      refine pairwise_of_mapM hpss hne ?_
      rintro name name' qs qs' ⟨hname, hname', hne⟩ hqs hqs' p hp hp'
      obtain ⟨rest, rfl⟩ := eq_below_of_mem_visit hs (Tree.isName_of_mem_names hname) hqs hp
      obtain ⟨rest', he⟩ := eq_below_of_mem_visit hs (Tree.isName_of_mem_names hname') hqs' hp'
      exact hne (List.cons.inj (Path.below_injective relative he)).1

/-! ### Walks over trees that have gained files -/

theorem kind?_of_visit (hs : d.spot directory = .ok spot) {name : Text} {qs : List Path}
    (h : visit d extension directory relative spot name = .ok qs) :
    ∃ k, d.kind? (directory.child name) = .ok k := by
  rw [kind?_child hs]
  unfold visit at h
  split at h
  · exact absurd h nofun
  all_goals next hlook => exact ⟨_, congrArg (Except.map Item.kind) hlook⟩

/-- A visit ends well if the path of the name can be asked about and the directory that it may lead
to can be walked. -/
theorem exists_visit (hs : d.spot directory = .ok spot) {name : Text} {k : Option Kind}
    (hk : d.kind? (directory.child name) = .ok k)
    (hwalk : ∀ s, d.spot (directory.child name) = .ok s → d.kindAt s.place = some .directory →
      ∃ qs, walk d extension (directory.child name) (relative.child name) s = .ok qs) :
    ∃ qs, visit d extension directory relative spot name = .ok qs := by
  rw [kind?_child hs] at hk
  obtain ⟨item, hitem, -⟩ := map_eq_ok_iff.mp hk
  rw [visit, hitem]
  cases item with
  | file => exact ⟨_, rfl⟩
  | nothing => exact ⟨[], rfl⟩
  | directory s =>
    obtain ⟨hspot, hkind⟩ := spot_of_lookUp hs hitem
    exact hwalk s hspot hkind

/-- A visit of a directory walks it. -/
theorem walk_of_visit (hs : d.spot directory = .ok spot) {name : Text} {s : Spot}
    (hspot : d.spot (directory.child name) = .ok s) (hkind : d.kindAt s.place = some .directory)
    {qs : List Path} (h : visit d extension directory relative spot name = .ok qs) :
    walk d extension (directory.child name) (relative.child name) s = .ok qs := by
  rwa [visit, lookUp_eq_directory hs hspot hkind] at h

/-- What could be asked about before can be asked about in a tree that has gained files. -/
theorem exists_kind?_of_grown (hg : d.Grown d') {p : Path} (h : ∃ k, d.kind? p = .ok k) :
    ∃ k, d'.kind? p = .ok k := by
  obtain ⟨k, hk⟩ := h
  rcases hg.kind? p with hsame | ⟨-, hfile, -⟩
  · exact ⟨k, hsame.trans hk⟩
  · exact ⟨_, hfile⟩

/-- **A walk still ends well in a tree that has gained files**, if the paths of these can be asked
about. -/
theorem exists_walk_of_grown (hg : d.Grown d') (ht : d'.tree.Linkless)
    (hs : d.spot directory = .ok spot) {ps : List Path}
    (h : walk d extension directory relative spot = .ok ps)
    (hnew : ∀ names, d.tree.node? (spot.place ++ names) = none →
      d'.tree.node? (spot.place ++ names) ≠ none →
        ∃ k, d'.kind? (directory.below names) = .ok k) :
    ∃ ps', walk d' extension directory relative spot = .ok ps' := by
  induction directory, relative, spot using walk.induct d generalizing ps with
  | case1 directory relative spot o hn =>
    rw [walk_eq, hn] at h
    cases h
  | case2 directory relative spot names hn ih =>
    rw [walk_eq, hn] at h
    obtain ⟨pss, hpss, rfl⟩ := map_eq_ok_iff.mp h
    obtain ⟨rights, hdirectory, hread, rfl⟩ := Disk.namesAt_eq_ok_iff.mp hn
    have hs' := hg.spot hs
    have hn' : d'.namesAt spot.place = .ok (d'.tree.names spot.place) :=
      Disk.namesAt_eq_ok_iff.mpr ⟨rights, hg.tree.within.directory hdirectory, hread, rfl⟩
    have hvisits : ∀ name ∈ d'.tree.names spot.place,
        ∃ qs, visit d' extension directory relative spot name = .ok qs := by
      intro name hname
      obtain ⟨hisName, hsome⟩ := Tree.mem_names_iff.mp hname
      -- the visit before, if the name is not new
      have hbefore (hnode : d.tree.node? (spot.place ++ [name]) ≠ none) :
          ∃ qs, visit d extension directory relative spot name = .ok qs := by
        obtain ⟨qs, -, hqs⟩ := exists_mem_of_mapM hpss (Tree.mem_names_iff.mpr ⟨hisName, hnode⟩)
        exact ⟨qs, hqs⟩
      obtain ⟨k, hk⟩ : ∃ k, d'.kind? (directory.child name) = .ok k := by
        by_cases hnode : d.tree.node? (spot.place ++ [name]) = none
        · exact hnew [name] hnode hsome
        · obtain ⟨qs, hqs⟩ := hbefore hnode
          exact exists_kind?_of_grown hg (kind?_of_visit hs hqs)
      refine exists_visit hs' hk fun s hspot' hkind' ↦ ?_
      -- a directory is not new, so the walk before has walked it
      obtain ⟨hspot, hkind⟩ := hg.spot_of_directory hspot' hkind'
      obtain ⟨-, hdot, hdots, -⟩ := Tree.isName_iff.mp hisName
      have hplace : s.place = spot.place ++ [name] :=
        Disk.place_of_spot_below ht (List.cons_ne_nil _ _)
          (fun n hn ↦ List.mem_singleton.mp hn ▸ ⟨hdot, hdots⟩) hs' hspot'
      have hnode : d.tree.node? (spot.place ++ [name]) ≠ none :=
        hplace ▸ Disk.node?_of_kindAt hkind
      obtain ⟨qs, hqs⟩ := hbefore hnode
      refine ih name (Tree.mem_names_iff.mpr ⟨hisName, hnode⟩) s (lookUp_eq_directory hs hspot hkind)
        hspot (walk_of_visit hs hspot hkind hqs) fun rest ↦ ?_
      rw [hplace, List.append_assoc, List.singleton_append, Path.child_below]
      exact hnew (name :: rest)
    obtain ⟨pss', hpss'⟩ := exists_mapM hvisits
    refine ⟨pss'.flatten, ?_⟩
    rw [walk_eq, hn']
    exact map_eq_ok_iff.mpr ⟨pss', hpss', rfl⟩

/-! ### Walks from a root -/

section Root

variable {host host' : Host} {base root p : Path} {ps : List Path}

theorem walkRoot_eq_ok_iff : walkRoot host base root extension = .ok ps ↔
    ∃ s, host.disk.spot (base / root) = .ok s ∧ host.disk.kindAt s.place = some .directory ∧
      walk host.disk extension (base / root) root s = .ok ps := by
  dsimp only [walkRoot]
  constructor
  · intro h
    split at h
    · exact absurd h nofun
    · exact absurd h nofun
    · next hdirectory =>
      obtain ⟨s, hs, hkind⟩ := Disk.isDirectory?_eq_true_iff.mp hdirectory
      rw [hs] at h
      exact ⟨s, hs, hkind, h⟩
  · rintro ⟨s, hs, hkind, h⟩
    rw [Disk.isDirectory?_eq_true_iff.mpr ⟨s, hs, hkind⟩, hs]
    exact h

theorem nodup_walkRoot (h : walkRoot host base root extension = .ok ps) : ps.Nodup := by
  obtain ⟨s, hs, -, hwalk⟩ := walkRoot_eq_ok_iff.mp h
  exact nodup_walk hs hwalk

/-- **A walk from a root finds exactly the files below the root that have the extension.** -/
theorem mem_walkRoot_iff (h : walkRoot host base root extension = .ok ps) : p ∈ ps ↔
    ∃ names, LeadsToSource host.disk extension (base / root) names ∧ p = root.below names := by
  obtain ⟨s, hs, -, hwalk⟩ := walkRoot_eq_ok_iff.mp h
  exact mem_walk_iff hs hwalk

/-- What a walk from a root finds is there. -/
theorem exists?_of_mem_walkRoot (hroot : root.slashes = 0)
    (h : walkRoot host base root extension = .ok ps) (hp : p ∈ ps) :
    host.disk.exists? (base / p) = .ok true := by
  obtain ⟨names, hleads, rfl⟩ := (mem_walkRoot_iff h).mp hp
  rw [Path.join_below hroot, Disk.exists?, hleads.kind]
  rfl

/-- **What was found before is what is found now, the new files left out.** -/
theorem mem_walkRoot_of_grown (hg : host.disk.Grown host'.disk) (hroot : root.slashes = 0)
    (h : walkRoot host base root extension = .ok ps) {ps' : List Path}
    (h' : walkRoot host' base root extension = .ok ps') :
    p ∈ ps ↔ p ∈ ps' ∧ host.disk.exists? (base / p) = .ok true := by
  rw [mem_walkRoot_iff h, mem_walkRoot_iff h']
  constructor
  · rintro ⟨names, ⟨hname, hextension, hkind⟩, rfl⟩
    have hkind' : host'.disk.kind? ((base / root).below names) = .ok (some .file) := by
      rcases hg.kind? ((base / root).below names) with hsame | ⟨hnone, -⟩
      · exact hsame.trans hkind
      · cases hnone.symm.trans hkind
    refine ⟨⟨names, ⟨hname, hextension, hkind'⟩, rfl⟩, ?_⟩
    rw [Path.join_below hroot, Disk.exists?, hkind]
    rfl
  · rintro ⟨⟨names, ⟨hname, hextension, hkind'⟩, rfl⟩, hexists⟩
    rw [Path.join_below hroot] at hexists
    rcases hg.kind? ((base / root).below names) with hsame | ⟨hnone, -⟩
    · exact ⟨names, ⟨hname, hextension, hsame.symm.trans hkind'⟩, rfl⟩
    · rw [Disk.exists?, hnone] at hexists
      cases hexists

/-- **A walk from a root still ends well in a tree that has gained files**, if the new files below
the base can be asked about. -/
theorem exists_walkRoot_of_grown (hg : host.disk.Grown host'.disk) (ht : host'.disk.tree.Linkless)
    (hroot : root.LeadsDown) (h : walkRoot host base root extension = .ok ps)
    (hnew : ∀ spot names, host'.disk.spot base = .ok spot →
      host.disk.tree.node? (spot.place ++ names) = none →
        host'.disk.tree.node? (spot.place ++ names) ≠ none →
          ∃ k, host'.disk.kind? (base.below names) = .ok k) :
    ∃ ps', walkRoot host' base root extension = .ok ps' := by
  obtain ⟨spot, hs, hkind, hwalk⟩ := walkRoot_eq_ok_iff.mp h
  have hs' := hg.spot hs
  obtain ⟨spotBase, hbase⟩ := Disk.exists_spot_of_spot_join hroot hs'
  obtain ⟨ps', hwalk'⟩ := exists_walk_of_grown hg ht hs hwalk fun names hnone hsome ↦ by
    rw [Disk.place_of_spot_join ht hroot hbase hs', List.append_assoc] at hnone hsome
    rw [Path.join_eq_below hroot.slashes, Path.below_below]
    exact hnew spotBase _ hbase hnone hsome
  obtain ⟨rights, hnode⟩ := Disk.kindAt_eq_directory_iff.mp hkind
  have hkind' := Disk.kindAt_eq_directory_iff.mpr ⟨rights, hg.tree.within.directory hnode⟩
  exact ⟨ps', walkRoot_eq_ok_iff.mpr ⟨spot, hs', hkind', hwalk'⟩⟩

/-- Has the second host what the first one has, and besides it only files to which paths lead down
from a base? -/
structure Gains (base : Path) (host host' : Host) : Prop where
  disk : host.disk.Grown host'.disk
  git : host'.git = host.git
  leadsDown : ∀ place, host.disk.tree.node? place = none → host'.disk.tree.node? place ≠ none →
    ∃ q s, Path.LeadsDown q ∧ host'.disk.spot (base / q) = .ok s ∧ s.place = place

/-- **A walk from a root still ends well on a host that has gained files.** -/
theorem exists_walkRoot_of_gains (hg : Gains base host host') (ht : host'.disk.tree.Linkless)
    (hroot : root.LeadsDown) (h : walkRoot host base root extension = .ok ps) :
    ∃ ps', walkRoot host' base root extension = .ok ps' := by
  refine exists_walkRoot_of_grown hg.disk ht hroot h fun spot names hbase hnone hsome ↦ ?_
  -- the new place is where one of the paths leads, so this path is the one that the walk asks about
  obtain ⟨q, s, hq, hspot, hplace⟩ := hg.leadsDown _ hnone hsome
  rw [Disk.place_of_spot_join ht hq hbase hspot] at hplace
  rw [Path.join_eq_below hq.slashes, List.append_cancel_left hplace] at hspot
  exact ⟨_, Disk.kind?_of_spot hspot⟩

end Root

end Discovery

end StyleLinter
