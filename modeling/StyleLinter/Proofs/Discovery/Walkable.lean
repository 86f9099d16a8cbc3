import StyleLinter.Proofs.Discovery.Walked

/-!
# When a walk ends well

A walk asks about every name that it comes to, and it lists every directory. So **a walk ends well
exactly if each directory below its own, and this one too, can be listed, and each name in them can
be asked about** (`exists_walk_iff`). What the names are does not matter to this, and neither does
the extension.
-/

namespace StyleLinter.Discovery

open Files

variable {d : Disk} {extension : Text} {directory relative : Path} {spot : Spot} {name : Text}

/-- Can the directory that a path leads to be listed, and can all names in it be asked about? -/
def CanBeListed (d : Disk) (directory : Path) : Prop :=
  ∃ s names, d.spot directory = .ok s ∧ d.namesAt s.place = .ok names ∧
    ∀ name ∈ names, ∃ k, d.kind? (directory.child name) = .ok k

/-- Can a directory be listed with all directories below it? -/
structure CanBeWalked (d : Disk) (directory : Path) : Prop where
  here : CanBeListed d directory
  below : ∀ names, (∀ n ∈ names, Tree.isName n = true) →
    d.isDirectory? (directory.below names) = .ok true → CanBeListed d (directory.below names)

theorem CanBeWalked.child (h : CanBeWalked d directory) (hname : Tree.isName name = true)
    (hdirectory : d.isDirectory? (directory.child name) = .ok true) :
    CanBeWalked d (directory.child name) where
  here := h.below [name] (fun _ hn ↦ List.mem_singleton.mp hn ▸ hname) hdirectory
  below names hnames hdirectory := by
    rw [Path.child_below] at hdirectory ⊢
    refine h.below (name :: names) (fun n hn ↦ ?_) hdirectory
    rcases List.mem_cons.mp hn with rfl | hn
    · exact hname
    · exact hnames n hn

/-- A directory that can be listed is there. -/
theorem CanBeListed.isDirectory (h : CanBeListed d directory) :
    ∃ s, d.spot directory = .ok s ∧ d.kindAt s.place = some .directory := by
  obtain ⟨s, names, hs, hn, -⟩ := h
  obtain ⟨rights, hnode, -, -⟩ := Disk.namesAt_eq_ok_iff.mp hn
  exact ⟨s, hs, Disk.kindAt_eq_directory_iff.mpr ⟨rights, hnode⟩⟩

/-- **A walk ends well exactly if it may look at everything.** -/
theorem exists_walk_iff (hs : d.spot directory = .ok spot) :
    (∃ ps, walk d extension directory relative spot = .ok ps) ↔ CanBeWalked d directory := by
  induction directory, relative, spot using walk.induct d with
  | case1 directory relative spot o hn =>
    rw [walk_eq, hn]
    constructor
    · rintro ⟨_, h⟩
      cases h
    · intro h
      obtain ⟨s, names, hs', hn', -⟩ := h.here
      obtain rfl := Except.ok.inj (hs.symm.trans hs')
      cases hn.symm.trans hn'
  | case2 directory relative spot names hn ih =>
    -- the walk of the directory that a name leads to
    have hbelow {name : Text} (hname : name ∈ names) {s : Spot}
        (hspot : d.spot (directory.child name) = .ok s)
        (hkind : d.kindAt s.place = some .directory) :=
      ih name hname s (lookUp_eq_directory hs hspot hkind) hspot
    rw [walk_eq, hn]
    constructor
    · rintro ⟨ps, h⟩
      obtain ⟨pss, hpss, -⟩ := map_eq_ok_iff.mp h
      have hlist : CanBeListed d directory := by
        refine ⟨spot, names, hs, hn, fun name hname ↦ ?_⟩
        obtain ⟨qs, -, hvisit⟩ := exists_mem_of_mapM hpss hname
        exact kind?_of_visit hs hvisit
      refine ⟨hlist, fun rest hrest hdirectory ↦ ?_⟩
      cases rest with
      | nil =>
        rw [Path.below, List.append_nil]
        exact hlist
      | cons name rest =>
        rw [← Path.child_below] at hdirectory ⊢
        obtain ⟨s', hs', hkind'⟩ := Disk.isDirectory?_eq_true_iff.mp hdirectory
        obtain ⟨s, hspot, hkind⟩ :
            ∃ s, d.spot (directory.child name) = .ok s ∧ d.kindAt s.place = some .directory := by
          by_cases hnil : rest = []
          · rw [hnil, Path.below, List.append_nil] at hs'
            exact ⟨s', hs', hkind'⟩
          · exact kindAt_of_spot_below hnil hs'
        have hname := mem_of_spot_child hs hn (hrest name List.mem_cons_self) hspot
        obtain ⟨qs, -, hvisit⟩ := exists_mem_of_mapM hpss hname
        have hwalked := (hbelow hname hspot hkind).mp ⟨qs, walk_of_visit hs hspot hkind hvisit⟩
        exact hwalked.below rest (fun n hn ↦ hrest n (List.mem_cons_of_mem _ hn)) hdirectory
    · intro h
      obtain ⟨s, names', hs', hn', hask⟩ := h.here
      obtain rfl := Except.ok.inj (hs.symm.trans hs')
      obtain rfl := Except.ok.inj (hn.symm.trans hn')
      obtain ⟨pss, hpss⟩ := exists_mapM (f := visit d extension directory relative spot)
        fun name hname ↦ by
          obtain ⟨k, hk⟩ := hask name hname
          refine exists_visit hs hk fun s hspot hkind ↦ (hbelow hname hspot hkind).mpr ?_
          exact h.child (d.isName_of_namesAt hn hname)
            (Disk.isDirectory?_eq_true_iff.mpr ⟨s, hspot, hkind⟩)
      exact ⟨pss.flatten, map_eq_ok_iff.mpr ⟨pss, hpss, rfl⟩⟩

/-- **A walk from a root ends well exactly if it may look at everything.** -/
theorem exists_walkRoot_iff {host : Host} {base root : Path} :
    (∃ ps, walkRoot host base root extension = .ok ps) ↔ CanBeWalked host.disk (base / root) := by
  constructor
  · rintro ⟨ps, h⟩
    obtain ⟨s, hs, -, hwalk⟩ := walkRoot_eq_ok_iff.mp h
    exact (exists_walk_iff hs).mp ⟨ps, hwalk⟩
  · intro h
    obtain ⟨s, hs, hkind⟩ := h.here.isDirectory
    obtain ⟨ps, hwalk⟩ : ∃ ps, walk host.disk extension (base / root) root s = .ok ps :=
      (exists_walk_iff hs).mpr h
    exact ⟨ps, walkRoot_eq_ok_iff.mpr ⟨s, hs, hkind, hwalk⟩⟩

end StyleLinter.Discovery
