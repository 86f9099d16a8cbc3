import StyleLinter.Proofs.Files.Routes

/-!
# Disks that gain files

Writing a file changes the tree at one place (`spec_of_write`). The tree keeps what it has, and what
it gains is a file: it is `Grown`. In such a tree a route ends as before, unless it runs into a new
file (`Grown.follow`), so that **a path leads to what it led to before, or to a new file**
(`Grown.kind?`).
-/

namespace StyleLinter.Files

namespace Tree

variable {t t' t'' : Tree} {links : Nat} {dir : Place} {names : List Text} {s : Spot}

/-- Does the second tree have what the first one has, but for the contents of files, and besides it
nothing but files? -/
structure Grown (t t' : Tree) : Prop where
  within : t.Within t'
  file_of_new : ∀ p n, t.node? p = none → t'.node? p = some n →
    ∃ rights contents, n = .file rights contents

namespace Grown

theorem refl (t : Tree) : t.Grown t where
  within := (Kept.refl t).within
  file_of_new _ _ hnone hn := absurd (hnone.symm.trans hn) nofun

theorem trans (h : t.Grown t') (h' : t'.Grown t'') : t.Grown t'' where
  within := h.within.trans h'.within
  file_of_new p n hnone hn := by
    cases hmid : t'.node? p with
    | none => exact h'.file_of_new p n hmid hn
    | some m =>
      obtain ⟨rights, contents, rfl⟩ := h.file_of_new p m hnone hmid
      obtain ⟨contents', hn'⟩ := h'.within.file hmid
      exact ⟨rights, contents', Option.some.inj (hn.symm.trans hn')⟩

/-- A file that is put somewhere is all that a tree gains. -/
theorem put {p : Place} (hp : p ≠ []) {rights : Rights} {contents : Bytes}
    (h : t.Within (t.put p (.file rights contents))) : t.Grown (t.put p (.file rights contents)) where
  within := h
  file_of_new q n hnone hn := by
    rw [node?_put t p q _ hp] at hn
    split at hn
    · exact ⟨rights, contents, (Option.some.inj hn).symm⟩
    · exact absurd (hnone.symm.trans hn) nofun

/-- What was a file, a directory or nothing has not become a link. -/
theorem linkless (h : t.Grown t') (ht : t.Linkless) : t'.Linkless := by
  intro p target hp
  cases hn : t.node? p with
  | none =>
    obtain ⟨rights, contents, he⟩ := h.file_of_new p _ hn hp
    exact absurd he nofun
  | some n =>
    obtain ⟨n', hn', he⟩ := h.within p n hn
    obtain rfl := Option.some.inj (hn'.symm.trans hp)
    cases n with
    | link target' => exact ht p target' hn
    | file | directory => exact absurd he nofun

/-- What is a directory was one. -/
theorem directory (h : t.Grown t') {p : Place} {rights : Rights}
    (hp : t'.node? p = some (.directory rights)) : t.node? p = some (.directory rights) := by
  cases hn : t.node? p with
  | none =>
    obtain ⟨rights', contents, he⟩ := h.file_of_new p _ hn hp
    exact absurd he nofun
  | some n =>
    obtain ⟨n', hn', he⟩ := h.within p n hn
    obtain rfl := Option.some.inj (hn'.symm.trans hp)
    cases n with
    | directory rights' => exact congrArg some he.symm
    | file | link => exact absurd he nofun

/-- The owner gets through what he got through before, and a new file is no directory. -/
theorem passage (h : t.Grown t') (dir : Place) : t'.passage dir = t.passage dir ∨
    t.passage dir = .error .notFound ∧ t'.passage dir = .error .notDirectory := by
  unfold Tree.passage
  cases hn : t.node? dir with
  | none =>
    cases hn' : t'.node? dir with
    | none => exact .inl rfl
    | some n =>
      obtain ⟨rights, contents, rfl⟩ := h.file_of_new dir n hn hn'
      exact .inr ⟨rfl, rfl⟩
  | some n =>
    cases n with
    | directory rights =>
      rw [h.within.directory hn]
      exact .inl rfl
    | link target =>
      rw [h.within.link hn]
      exact .inl rfl
    | file rights contents =>
      obtain ⟨contents', hn'⟩ := h.within.file hn
      rw [hn']
      exact .inl rfl

/-- **A route ends as before, or it runs into a new file**: at its end, where a vacant name was, or
on the way, where it did not go on before either. -/
theorem follow (h : t.Grown t') (links : Nat) (dir : Place) (names : List Text) :
    t'.follow links dir names = t.follow links dir names ∨
      (∃ place name links', t.follow links dir names = .ok (.vacant place name) ∧
        t'.follow links dir names = .ok (.found ⟨place ++ [name], links'⟩) ∧
        t.node? (place ++ [name]) = none ∧ t'.node? (place ++ [name]) ≠ none) ∨
      t.follow links dir names = .error .notFound ∧
        t'.follow links dir names = .error .notDirectory := by
  fun_induction Tree.follow t links dir names with
  | case1 => exact .inl follow_nil
  | case2 links dir name rest r hp =>
    rw [Tree.follow]
    rcases h.passage dir with hp' | ⟨hnone, hp'⟩
    · rw [hp', hp]
      exact .inl rfl
    · obtain rfl := Except.error.inj (hp.symm.trans hnone)
      rw [hp']
      exact .inr (.inr ⟨rfl, rfl⟩)
  | case3 links dir rest hp ih =>
    rw [follow_dot (passage_of_within h.within hp)]
    exact ih
  | case4 links dir rest hp _ ih =>
    rw [follow_dots (passage_of_within h.within hp)]
    exact ih
  | case5 links dir name rest hp hdot hdots hlen =>
    rw [Tree.follow, passage_of_within h.within hp]
    simp only [if_neg hdot, if_neg hdots, if_pos hlen, true_or]
  | case6 links dir name hp hdot hdots hlen hn =>
    have hp' := passage_of_within h.within hp
    cases hn' : t'.node? (dir ++ [name]) with
    | none =>
      rw [Tree.follow, hp']
      simp only [if_neg hdot, if_neg hdots, if_neg hlen, hn', if_true, true_or]
    | some n =>
      obtain ⟨rights, contents, rfl⟩ := h.file_of_new _ n hn hn'
      rw [follow_down hp' hdot hdots hlen hn' (Node.file_ne_link _ _), follow_nil]
      exact .inr (.inl ⟨dir, name, links, rfl, rfl, hn, Option.ne_none_iff_exists'.mpr ⟨_, hn'⟩⟩)
  | case7 links dir name rest hp hdot hdots hlen hn hrest =>
    have hp' := passage_of_within h.within hp
    cases hn' : t'.node? (dir ++ [name]) with
    | none =>
      rw [Tree.follow, hp']
      simp only [if_neg hdot, if_neg hdots, if_neg hlen, hn', if_neg hrest, true_or]
    | some n =>
      -- the new file is no directory to go on from
      obtain ⟨rights, contents, rfl⟩ := h.file_of_new _ n hn hn'
      obtain ⟨name', rest', rfl⟩ := List.exists_cons_of_ne_nil hrest
      have hfile : t'.passage (dir ++ [name]) = .error .notDirectory := by
        rw [Tree.passage, hn']
      rw [follow_down hp' hdot hdots hlen hn' (Node.file_ne_link _ _), Tree.follow, hfile]
      exact .inr (.inr ⟨rfl, rfl⟩)
  | case8 links dir name rest hp hdot hdots hlen target hn hlt ih =>
    rw [follow_link (passage_of_within h.within hp) hdot hdots hlen (h.within.link hn) hlt]
    exact ih
  | case9 links dir name rest hp hdot hdots hlen target hn hlt =>
    rw [Tree.follow, passage_of_within h.within hp]
    simp only [if_neg hdot, if_neg hdots, if_neg hlen, h.within.link hn, dif_neg hlt, true_or]
  | case10 links dir name rest hp hdot hdots hlen n hlink hn ih =>
    obtain ⟨n', hn', hlink'⟩ := h.within.no_link hn hlink
    rw [follow_down (passage_of_within h.within hp) hdot hdots hlen hn' hlink']
    exact ih

end Grown

end Tree

namespace Disk

variable {d d' d'' : Disk} {p : Path} {s : Spot} {contents : Bytes}

/-! ### Grown disks -/

/-- Does the second disk have what the first one has, but for the contents of files, and besides it
nothing but files? -/
structure Grown (d d' : Disk) : Prop where
  current : d'.current = d.current
  tree : d.tree.Grown d'.tree

namespace Grown

theorem refl (d : Disk) : d.Grown d := ⟨rfl, .refl _⟩

theorem trans (h : d.Grown d') (h' : d'.Grown d'') : d.Grown d'' :=
  ⟨h'.current.trans h.current, h.tree.trans h'.tree⟩

/-- What a path led to it leads to. -/
theorem spot (h : d.Grown d') (hs : d.spot p = .ok s) : d'.spot p = .ok s :=
  spot_of_within h.current h.tree.within hs

/-- What is new is a file. -/
theorem kindAt_of_new (h : d.Grown d') {place : Place} (hnone : d.tree.node? place = none)
    (hsome : d'.tree.node? place ≠ none) : d'.kindAt place = some .file := by
  obtain ⟨n, hn⟩ := Option.ne_none_iff_exists'.mp hsome
  obtain ⟨rights, contents, rfl⟩ := h.tree.file_of_new place n hnone hn
  rw [Disk.kindAt, hn]

theorem kindAt (h : d.Grown d') (place : Place) : d'.kindAt place = d.kindAt place ∨
    d.tree.node? place = none ∧ d'.kindAt place = some .file := by
  cases hn : d.tree.node? place with
  | none =>
    cases hn' : d'.tree.node? place with
    | none => exact .inl (by rw [Disk.kindAt, Disk.kindAt, hn, hn'])
    | some n => exact .inr ⟨rfl, h.kindAt_of_new hn (hn' ▸ nofun)⟩
  | some n =>
    refine .inl ?_
    rw [Disk.kindAt, Disk.kindAt, hn]
    cases n with
    | directory rights => rw [h.tree.within.directory hn]
    | link target => rw [h.tree.within.link hn]
    | file rights contents =>
      obtain ⟨contents', hn'⟩ := h.tree.within.file hn
      rw [hn']

/-- **A path ends where it ended before, or it runs into a new file.** -/
theorem land (h : d.Grown d') (p : Path) : d'.land p = d.land p ∨
    (∃ place name links, d.land p = .ok (.vacant place name) ∧
      d'.land p = .ok (.found ⟨place ++ [name], links⟩) ∧
      d.tree.node? (place ++ [name]) = none ∧ d'.tree.node? (place ++ [name]) ≠ none) ∨
    d.land p = .error (.refused .notFound) ∧ d'.land p = .error (.refused .notDirectory) := by
  have hstart : d'.start p = d.start p := by rw [start, start, h.current]
  unfold Disk.land
  rw [hstart]
  cases admissible p with
  | error o => exact .inl rfl
  | ok =>
    rcases h.tree.follow 0 (d.start p) (route p) with hf | ⟨place, name, links, hf, hf', hnew⟩ |
      ⟨hf, hf'⟩
    · rw [hf]
      exact .inl rfl
    · rw [hf, hf']
      exact .inr (.inl ⟨place, name, links, rfl, rfl, hnew⟩)
    · rw [hf, hf']
      exact .inr (.inr ⟨rfl, rfl⟩)

/-- What a path leads to, if it is not new, it led to before. -/
theorem spot_of_node? (h : d.Grown d') (hs : d'.spot p = .ok s)
    (hnode : d.tree.node? s.place ≠ none) : d.spot p = .ok s := by
  have hl' := land_of_spot hs
  rcases h.land p with hl | ⟨place, name, links, -, hl, hnone, -⟩ | ⟨-, hl⟩
  · exact spot_of_land (hl.symm.trans hl')
  · obtain rfl := Landing.found.inj (Except.ok.inj (hl.symm.trans hl'))
    exact absurd hnone hnode
  · exact absurd (hl.symm.trans hl') nofun

/-- **A path leads to what it led to before, or to a new file.** -/
theorem kind? (h : d.Grown d') (p : Path) : d'.kind? p = d.kind? p ∨
    d.kind? p = .ok none ∧ d'.kind? p = .ok (some .file) ∧
      ∃ s, d'.spot p = .ok s ∧ d.tree.node? s.place = none := by
  unfold Disk.kind? Disk.spot
  rcases h.land p with hl | ⟨place, name, links, hl, hl', hnone, hsome⟩ | ⟨hl, hl'⟩
  · rw [hl]
    cases d.land p with
    | error o => cases o <;> exact .inl rfl
    | ok l =>
      cases l with
      | vacant dir name => exact .inl rfl
      | found s =>
        rcases h.kindAt s.place with hk | ⟨hnone, hk⟩
        · exact .inl (congrArg Except.ok hk)
        · have hbefore : d.kindAt s.place = none := by rw [Disk.kindAt, hnone]
          exact .inr ⟨congrArg Except.ok hbefore, congrArg Except.ok hk, s, rfl, hnone⟩
  · rw [hl, hl']
    have hk : d'.kindAt (place ++ [name]) = some .file := h.kindAt_of_new hnone hsome
    exact .inr ⟨rfl, congrArg Except.ok hk, ⟨place ++ [name], links⟩, rfl, hnone⟩
  · rw [hl, hl']
    exact .inl rfl

/-- **What is there after growth was there before, or is a new file.** -/
theorem exists? (h : d.Grown d') (p : Path) : d'.exists? p = d.exists? p ∨
    d.exists? p = .ok false ∧ d'.exists? p = .ok true ∧
      ∃ s, d'.spot p = .ok s ∧ d.tree.node? s.place = none := by
  unfold Disk.exists?
  rcases h.kind? p with hk | ⟨hk, hk', hnew⟩
  · exact .inl (congrArg _ hk)
  · rw [hk, hk']
    exact .inr ⟨rfl, rfl, hnew⟩

end Grown

theorem kind?_of_spot (h : d.spot p = .ok s) : d.kind? p = .ok (d.kindAt s.place) := by
  rw [kind?, h]

/-- **What a path leads to can always be asked**, and only the file system may refuse. -/
theorem exists_refusal_of_kind? {o : Obstacle} (h : d.kind? p = .error o) : ∃ r, o = .refused r := by
  unfold kind? at h
  split at h
  · exact absurd h nofun
  · exact absurd h nofun
  · split at h
    · exact absurd h nofun
    · exact ⟨_, (Except.error.inj h).symm⟩

/-- Something that is there is at a place. -/
theorem spot_of_kind? {k : Kind} (h : d.kind? p = .ok (some k)) :
    ∃ s, d.spot p = .ok s ∧ d.kindAt s.place = some k := by
  unfold kind? at h
  split at h
  · next s hs => exact ⟨s, hs, Except.ok.inj h⟩
  · exact absurd h nofun
  · split at h
    · exact absurd h nofun
    · exact absurd h nofun

theorem node?_of_kindAt {place : Place} {k : Kind} (h : d.kindAt place = some k) :
    d.tree.node? place ≠ none := by
  intro hnone
  rw [kindAt, hnone] at h
  exact absurd h nofun

theorem kindAt_eq_directory_iff {place : Place} : d.kindAt place = some .directory ↔
    ∃ rights, d.tree.node? place = some (.directory rights) := by
  unfold kindAt
  constructor
  · intro h
    split at h
    · exact absurd h nofun
    · next rights hn => exact ⟨rights, hn⟩
    · exact absurd h nofun
  · rintro ⟨rights, hn⟩
    rw [hn]

/-- **A directory has been one before.** -/
theorem Grown.spot_of_directory (h : d.Grown d') (hs : d'.spot p = .ok s)
    (hkind : d'.kindAt s.place = some .directory) :
    d.spot p = .ok s ∧ d.kindAt s.place = some .directory := by
  obtain ⟨rights, hnode'⟩ := kindAt_eq_directory_iff.mp hkind
  have hnode := h.tree.directory hnode'
  exact ⟨h.spot_of_node? hs (hnode ▸ nofun), kindAt_eq_directory_iff.mpr ⟨rights, hnode⟩⟩

theorem isDirectory?_eq_true_iff : d.isDirectory? p = .ok true ↔
    ∃ s, d.spot p = .ok s ∧ d.kindAt s.place = some .directory := by
  rw [isDirectory?, map_eq_ok_iff]
  constructor
  · rintro ⟨k, hk, hdirectory⟩
    obtain rfl := beq_iff_eq.mp hdirectory
    exact spot_of_kind? hk
  · rintro ⟨s, hs, hkind⟩
    exact ⟨some .directory, by rw [kind?_of_spot hs, hkind], rfl⟩

theorem spot_of_exists? (h : d.exists? p = .ok true) :
    ∃ s, d.spot p = .ok s ∧ d.tree.node? s.place ≠ none := by
  obtain ⟨k, hk, hsome⟩ := map_eq_ok_iff.mp h
  obtain ⟨k, rfl⟩ := Option.isSome_iff_exists.mp hsome
  obtain ⟨s, hs, hkind⟩ := spot_of_kind? hk
  exact ⟨s, hs, node?_of_kindAt hkind⟩

theorem exists?_of_spot (ht : d.tree.Linkless) (hs : d.spot p = .ok s)
    (hnode : d.tree.node? s.place ≠ none) : d.exists? p = .ok true := by
  obtain ⟨n, hn⟩ := Option.ne_none_iff_exists'.mp hnode
  rw [exists?, kind?_of_spot hs, kindAt, hn]
  cases n with
  | link target => exact absurd hn (ht _ _)
  | file | directory => rfl

/-- A path cannot be followed for its characters exactly if one of them is NUL. -/
theorem land_eq_nul_iff : d.land p = .error .nul ↔ '\x00' ∈ p.toText := by
  unfold land
  constructor
  · intro h
    split at h
    · next hadmissible =>
      obtain rfl := Except.error.inj h
      unfold admissible at hadmissible
      split at hadmissible
      · next hnul => exact List.contains_iff_mem.mp hnul
      · split at hadmissible
        · exact absurd hadmissible nofun
        · exact absurd hadmissible nofun
    · obtain ⟨r, -, hr⟩ := mapError_eq_error_iff.mp h
      exact absurd hr nofun
  · intro h
    have hadmissible : admissible p = .error .nul := if_pos (List.contains_iff_mem.mpr h)
    rw [hadmissible]

/-- A path leads nowhere for its characters exactly if one of them is NUL. -/
theorem spot_eq_nul_iff : d.spot p = .error .nul ↔ '\x00' ∈ p.toText := by
  rw [← land_eq_nul_iff (d := d), spot]
  cases d.land p with
  | error o => simp
  | ok l => cases l <;> simp

/-- Reading passes on that a path has a NUL character, and finds nothing of the kind itself. -/
theorem read_eq_nul_iff : d.read p = .error .nul ↔ d.spot p = .error .nul := by
  unfold read
  cases d.spot p with
  | error o => simp
  | ok s =>
    refine iff_of_false ?_ nofun
    simp only
    split
    · split <;> nofun
    · nofun
    · nofun

/-- Writing passes on that a path has a NUL character, and finds nothing of the kind itself. -/
theorem write_eq_nul_iff : d.write p contents = .error .nul ↔ '\x00' ∈ p.toText := by
  rw [← land_eq_nul_iff (d := d), write]
  cases d.land p with
  | error o => simp
  | ok l =>
    refine iff_of_false ?_ nofun
    cases l with
    | found s =>
      simp only
      split
      · split <;> nofun
      · nofun
    | vacant dir name =>
      simp only
      split
      · split <;> nofun
      · nofun

/-- **What is there can be read**, or its rights forbid it, or it is a directory. -/
theorem obstacle_of_read {k : Kind} (hk : d.kind? p = .ok (some k)) {o : Obstacle}
    (h : d.read p = .error o) :
    o = .refused .denied ∨ o = .refused .isDirectory ∧ k = .directory := by
  obtain ⟨s, hs, hkind⟩ := spot_of_kind? hk
  rw [read, hs] at h
  rw [kindAt] at hkind
  dsimp only at h
  split at h
  · split at h
    · exact absurd h nofun
    · exact .inl (Except.error.inj h).symm
  · next rights hnode =>
    rw [hnode] at hkind
    obtain rfl := Option.some.inj hkind
    split at h
    · exact .inr ⟨(Except.error.inj h).symm, rfl⟩
    · exact .inl (Except.error.inj h).symm
  · next hfile hdirectory =>
    split at hkind
    · next hnode => exact absurd hnode (hfile _ _)
    · next hnode => exact absurd hnode (hdirectory _)
    · exact absurd hkind nofun

theorem read_eq_ok_iff : d.read p = .ok contents ↔ ∃ s rights, d.spot p = .ok s ∧
    d.tree.node? s.place = some (.file rights contents) ∧ rights.read = true := by
  unfold read
  constructor
  · intro h
    split at h
    · exact absurd h nofun
    · next s hs =>
      split at h
      · next rights contents' hn =>
        split at h
        · next hread =>
          obtain rfl := Except.ok.inj h
          exact ⟨s, rights, hs, hn, hread⟩
        · exact absurd h nofun
      · exact absurd h nofun
      · exact absurd h nofun
  · rintro ⟨s, rights, hs, hn, hread⟩
    simp only [hs, hn, hread, if_true]

/-! ### Writing -/

/-- **Writing a file changes one place**: the path leads there afterwards, and there is a file with
the new contents. It has all rights if it is new. -/
theorem spec_of_write (h : d.write p contents = .ok d') : d.Grown d' ∧
    ∃ s rights, d'.spot p = .ok s ∧ d'.tree.node? s.place = some (.file rights contents) ∧
      (d.tree.node? s.place = none → rights = {}) ∧
      ∀ place, place ≠ s.place → d'.tree.node? place = d.tree.node? place := by
  unfold write at h
  split at h
  · cases h
  · next s hl =>
    split at h
    · next rights old hn =>
      split at h
      · obtain rfl := Except.ok.inj h
        have hne := Tree.ne_nil_of_node?_eq_file hn
        have hput := fun place ↦ Tree.node?_put d.tree s.place place (.file rights contents) hne
        have hgrown : d.Grown (d.withTree (d.tree.put s.place (.file rights contents))) :=
          ⟨rfl, .put hne (Tree.within_put_file hn contents)⟩
        refine ⟨hgrown, s, rights, hgrown.spot (spot_of_land hl), (hput _).trans (if_pos rfl),
          fun hnone ↦ ?_, fun place hplace ↦ (hput _).trans (if_neg hplace)⟩
        cases hn.symm.trans hnone
      · cases h
    · cases h
  · next dir name hl =>
    split at h
    · split at h
      · obtain rfl := Except.ok.inj h
        obtain ⟨ha, hf⟩ := admissible_of_land hl
        have hnone := (Tree.follow_of_vacant (Tree.Kept.refl _).within hf).1
        have hne := Tree.ne_nil_of_node?_eq_none hnone
        have hput := fun place ↦ Tree.node?_put d.tree (dir ++ [name]) place (.file {} contents) hne
        have hwithin := (Tree.kept_put_vacant hnone (.file {} contents)).within
        -- the route now ends at the new file
        obtain ⟨s, hs, hplace⟩ := (Tree.follow_of_vacant hwithin hf).2 _ _
          ((hput _).trans (if_pos rfl))
        have hspot : (d.withTree (d.tree.put (dir ++ [name]) (.file {} contents))).spot p = .ok s := by
          refine spot_of_land ?_
          rw [land, ha]
          exact mapError_eq_ok_iff.mpr hs
        exact ⟨⟨rfl, .put hne hwithin⟩, s, {}, hspot, (hput _).trans (if_pos hplace), fun _ ↦ rfl,
          fun place hplace' ↦ (hput _).trans (if_neg (hplace ▸ hplace'))⟩
      · cases h
    · cases h

end Disk

end StyleLinter.Files
