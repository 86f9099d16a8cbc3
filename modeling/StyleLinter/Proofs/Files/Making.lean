import StyleLinter.Proofs.Files.Routes

/-!
# Directories that are made on the way

Making the directories of a path adds directories and nothing else, and each of them is one that
the path names (`makesWay_makeDirectories`). This holds **in whatever way the making ends**: what
was made before a failure stays, and it is on the way as well.

No file is touched by this (`MakesWay.file?_eq`).
-/

namespace StyleLinter.Files

namespace Tree

/-- The file at a place, with its rights. -/
def file? (t : Tree) (place : Place) : Option (Rights × Bytes) :=
  match t.node? place with
  | some (.file rights contents) => some (rights, contents)
  | _ => none

theorem spot_eq_ok_iff {t : Tree} {links : Nat} {dir : Place} {names : List Text} {s : Spot} :
    t.spot links dir names = .ok s ↔ t.follow links dir names = .ok (.found s) := by
  unfold spot
  constructor
  · intro h
    split at h
    · next s' hs =>
      obtain rfl := Except.ok.inj h
      exact hs
    · cases h
    · cases h
  · intro h
    rw [h]

end Tree

namespace Disk

variable {d d' d'' : Disk} {p q : Path} {place : Place}

/-- Is this a place that the path names? It is one name further down than where the names before
lead. -/
def Names (d : Disk) (p : Path) (place : Place) : Prop :=
  ∃ front name s, front ++ [name] <+: p.parts ∧ d.tree.spot 0 (d.start p) front = .ok s ∧
    place = s.place ++ [name]

/-- A longer path names what a shorter one names, also when the tree has grown. -/
theorem Names.mono (h : d.Names p place) (hcur : d'.current = d.current)
    (hkept : d.tree.Kept d'.tree) (hslashes : q.slashes = p.slashes)
    (hparts : p.parts <+: q.parts) :
    d'.Names q place := by
  obtain ⟨front, name, s, hfront, hs, hplace⟩ := h
  have hstart : d'.start q = d.start p := by
    rw [start, start, hcur, Path.isAbsolute, Path.isAbsolute, hslashes]
  refine ⟨front, name, s, hfront.trans hparts, ?_, hplace⟩
  rw [Tree.spot_eq_ok_iff] at hs ⊢
  rw [hstart]
  exact Tree.follow_of_within hkept.within hs

/-- Has the second disk what the first one has, and besides it only new directories that the path
names? -/
structure MakesWay (d d' : Disk) (p : Path) : Prop where
  current : d'.current = d.current
  kept : d.tree.Kept d'.tree
  new : ∀ place n, d.tree.node? place = none → d'.tree.node? place = some n →
    n = .directory {} ∧ d'.Names p place

namespace MakesWay

theorem refl (d : Disk) (p : Path) : d.MakesWay d p where
  current := rfl
  kept := .refl _
  new _ _ hnone hn := absurd (hnone.symm.trans hn) nofun

theorem trans (h : d.MakesWay d' p) (h' : d'.MakesWay d'' p) : d.MakesWay d'' p where
  current := h'.current.trans h.current
  kept := h.kept.trans h'.kept
  new place n hnone hn := by
    cases hmid : d'.tree.node? place with
    | none => exact h'.new place n hmid hn
    | some m =>
      obtain rfl := Option.some.inj ((h'.kept place m hmid).symm.trans hn)
      obtain ⟨hdirectory, hnames⟩ := h.new place m hnone hmid
      exact ⟨hdirectory, hnames.mono h'.current h'.kept rfl (List.prefix_refl _)⟩

/-- **The files are as they were.** -/
theorem file?_eq (h : d.MakesWay d' p) (place : Place) :
    d'.tree.file? place = d.tree.file? place := by
  unfold Tree.file?
  cases hn : d.tree.node? place with
  | some n => rw [h.kept place n hn]
  | none =>
    cases hn' : d'.tree.node? place with
    | none => rfl
    | some n =>
      obtain ⟨rfl, -⟩ := h.new place n hn hn'
      rfl

end MakesWay

/-! ### One directory -/

/-- **A directory is made** at a vacant name. -/
theorem spec_of_makeDirectory (h : d.makeDirectory p = .ok d') :
    ∃ name s, p.parts.getLast? = some name ∧
      d.tree.spot 0 (d.start p) p.parts.dropLast = .ok s ∧
      d.tree.node? (s.place ++ [name]) = none ∧
      d' = d.withTree (d.tree.put (s.place ++ [name]) (.directory {})) := by
  unfold makeDirectory at h
  split at h
  · cases h
  split at h
  · cases h
  next name hname =>
    split at h
    · cases h
    next s hs =>
      split at h
      · cases h
      split at h
      · cases h
      split at h
      · cases h
      split at h
      · next hnone =>
        split at h
        · exact ⟨name, s, hname, hs, hnone, (Except.ok.inj h).symm⟩
        · cases h
      · cases h

theorem makesWay_of_makeDirectory (h : d.makeDirectory p = .ok d') : d.MakesWay d' p := by
  obtain ⟨name, s, hname, hs, hnone, rfl⟩ := spec_of_makeDirectory h
  have hkept := Tree.kept_put_vacant hnone (.directory {})
  refine ⟨rfl, hkept, fun place n hvacant hn ↦ ?_⟩
  rw [withTree, Tree.node?_put _ _ _ _ (Tree.ne_nil_of_node?_eq_none hnone)] at hn
  split at hn
  · next hplace =>
    obtain ⟨front, hparts⟩ := List.getLast?_eq_some_iff.mp hname
    rw [hparts, List.dropLast_concat] at hs
    refine ⟨(Option.some.inj hn).symm, front, name, s, hparts ▸ List.prefix_refl _, ?_, hplace⟩
    exact Tree.spot_eq_ok_iff.mpr (Tree.follow_of_within hkept.within (Tree.spot_eq_ok_iff.mp hs))
  · exact absurd (hvacant.symm.trans hn) nofun

/-! ### All directories of a path -/

theorem directoryOr_fst (d : Disk) (p : Path) (o : Obstacle) : (d.directoryOr p o).1 = d := by
  unfold directoryOr
  split
  · rfl
  · split <;> rfl

theorem MakesWay.below (h : d.MakesWay d' p) (hslashes : q.slashes = p.slashes)
    (hparts : p.parts <+: q.parts) : d.MakesWay d' q where
  current := h.current
  kept := h.kept
  new place n hnone hn := by
    obtain ⟨hdirectory, hnames⟩ := h.new place n hnone hn
    exact ⟨hdirectory, hnames.mono rfl (.refl _) hslashes hparts⟩

theorem MakesWay.of_parent (h : d.MakesWay d' p.parent) : d.MakesWay d' p :=
  h.below rfl (List.dropLast_prefix _)

/-- **Making directories adds directories on the way**, in whatever way it ends. -/
theorem makesWay_makeDirectories (d : Disk) (p : Path) : d.MakesWay (d.makeDirectories p).1 p := by
  fun_induction makeDirectories d p with
  | case1 p d' h => exact makesWay_of_makeDirectory h
  | case2 p => exact .refl d p
  | case3 p _ _ d' e h ih =>
    rw [h] at ih
    exact ih.of_parent
  | case4 p _ _ d' h d'' hd ih =>
    rw [h] at ih
    exact ih.of_parent.trans (makesWay_of_makeDirectory hd)
  | case5 p _ _ d' h _ ih =>
    rw [h] at ih
    exact ih.of_parent
  | case6 p _ _ d' h o _ _ ih =>
    rw [h] at ih
    rw [directoryOr_fst]
    exact ih.of_parent
  | case7 p o _ _ =>
    rw [directoryOr_fst]
    exact .refl d p

end Disk

end StyleLinter.Files
