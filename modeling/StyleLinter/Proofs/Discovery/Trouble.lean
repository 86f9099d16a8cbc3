import Mathlib.Data.List.Lex
import StyleLinter.Proofs.Discovery.Walkable

/-!
# The first trouble of a walk

A walk can meet two kinds of trouble: a directory that cannot be listed, and a name in a directory
that cannot be asked about (`Trouble`). Each is at the end of some names that lead down from where
the walk began, and **the walk fails with the one whose names come first** (`walk_eq_error_iff`),
names being compared one after the other.

The troubles of one walk are ordered in this way because none of them is above another one: below a
directory that cannot be listed there is nothing that a walk could meet.
-/

namespace StyleLinter

/-- **The names in a directory come in increasing order.** -/
theorem Files.Tree.pairwise_names (t : Files.Tree) (dir : Files.Place) :
    (t.names dir).Pairwise Text.Before := by
  have htotal : ∀ a b : Text, (Text.le a b || Text.le b a) = true := fun a b ↦
    (Bool.or_eq_true _ _).mpr (Text.le_total a b)
  have htrans : ∀ a b c : Text, Text.le a b = true → Text.le b c = true → Text.le a c = true :=
    fun _ _ _ ↦ Text.le_trans
  have hsorted : (t.names dir).Pairwise fun a b ↦ Text.le a b = true :=
    List.pairwise_mergeSort htrans htotal _
  exact hsorted.and (nodup_names t dir)

namespace Discovery

open Files

variable {d : Disk} {extension : Text} {directory relative : Path} {spot : Spot} {f f' : Failure}
  {names names' : List Text} {name : Text}

/-! ### Troubles -/

/-- **What a walk can meet** at the end of some names that lead down from a directory. -/
inductive Trouble (d : Disk) : Path → List Text → Failure → Prop
  /-- The directory cannot be listed. -/
  | unlistable {directory : Path} {s : Spot} (hs : d.spot directory = .ok s)
      (hkind : d.kindAt s.place = some .directory)
      (h : d.namesAt s.place = .error (.refused .denied)) :
      Trouble d directory [] (.discovery directory .denied)
  /-- A name in the directory cannot be asked about. -/
  | refused {directory : Path} {s : Spot} {names : List Text} {name : Text} {r : Refusal}
      (hs : d.spot directory = .ok s) (hn : d.namesAt s.place = .ok names) (hname : name ∈ names)
      (h : d.kind? (directory.child name) = .error (.refused r)) :
      Trouble d directory [name] (.refused r (directory.child name))
  /-- The trouble is below a name in the directory. -/
  | deeper {directory : Path} {s : Spot} {names rest : List Text} {name : Text} {f : Failure}
      (hs : d.spot directory = .ok s) (hn : d.namesAt s.place = .ok names) (hname : name ∈ names)
      (h : Trouble d (directory.child name) rest f) : Trouble d directory (name :: rest) f

/-- Do the first names come before the second ones? The first ones that differ decide. -/
def Earlier : List Text → List Text → Prop := List.Lex Text.Before

theorem not_earlier_nil : ¬Earlier names [] := by
  intro h
  cases h

/-- **The trouble that is met first.** -/
structure IsFirstTrouble (d : Disk) (directory : Path) (names : List Text) (f : Failure) : Prop where
  trouble : Trouble d directory names f
  first : ∀ {names' f'}, Trouble d directory names' f' → ¬Earlier names' names

/-- Only a directory can be in trouble. -/
theorem Trouble.isDirectory (h : Trouble d directory names f) :
    ∃ s, d.spot directory = .ok s ∧ d.kindAt s.place = some .directory := by
  cases h with
  | unlistable hs hkind => exact ⟨_, hs, hkind⟩
  | refused hs hn | deeper hs hn =>
    obtain ⟨rights, hnode, -⟩ := Disk.namesAt_eq_ok_iff.mp hn
    exact ⟨_, hs, Disk.kindAt_eq_directory_iff.mpr ⟨rights, hnode⟩⟩

/-- A trouble is reported, or it is passed on as the refusal that it is. -/
theorem Trouble.failure_cases (h : Trouble d directory names f) :
    (∃ p, f = .discovery p .denied) ∨ ∃ r p, f = .refused r p := by
  induction h with
  | unlistable => exact .inl ⟨_, rfl⟩
  | refused => exact .inr ⟨_, _, rfl⟩
  | deeper _ _ _ _ ih => exact ih

/-- A directory can be asked about. -/
theorem Trouble.exists_kind? (h : Trouble d directory names f) : ∃ k, d.kind? directory = .ok k := by
  obtain ⟨s, hs, -⟩ := h.isDirectory
  exact ⟨_, Disk.kind?_of_spot hs⟩

/-- **There is one trouble at most at the end of some names.** -/
theorem Trouble.unique (h : Trouble d directory names f) (h' : Trouble d directory names f') :
    f = f' := by
  induction h with
  | unlistable =>
    cases h' with
    | unlistable => rfl
  | refused hs hn hname hr =>
    cases h' with
    | refused hs' hn' hname' hr' =>
      obtain rfl := Obstacle.refused.inj (Except.error.inj (hr.symm.trans hr'))
      rfl
    | deeper hs' hn' hname' h' =>
      obtain ⟨k, hk⟩ := h'.exists_kind?
      exact absurd (hk.symm.trans hr) nofun
  | deeper hs hn hname h ih =>
    cases h' with
    | refused hs' hn' hname' hr' =>
      obtain ⟨k, hk⟩ := h.exists_kind?
      exact absurd (hk.symm.trans hr') nofun
    | deeper hs' hn' hname' h' => exact ih h'

/-- Two troubles that are met first are the same. -/
theorem IsFirstTrouble.unique (h : IsFirstTrouble d directory names f)
    (h' : IsFirstTrouble d directory names' f') : f = f' := by
  have htrichotomous : Std.Trichotomous Earlier := List.Lex.trichotomous Text.Before
  obtain rfl := htrichotomous.trichotomous names names' (h'.first h.trouble) (h.first h'.trouble)
  exact h.trouble.unique h'.trouble

/-- Where everything may be looked at there is no trouble. -/
theorem CanBeWalked.not_trouble (h : CanBeWalked d directory) : ¬Trouble d directory names f := by
  intro htrouble
  induction htrouble with
  | unlistable hs hkind hn =>
    obtain ⟨s, names, hs', hn', -⟩ := h.here
    obtain rfl := Except.ok.inj (hs.symm.trans hs')
    exact absurd (hn.symm.trans hn') nofun
  | refused hs hn hname hr =>
    obtain ⟨s, names, hs', hn', hask⟩ := h.here
    obtain rfl := Except.ok.inj (hs.symm.trans hs')
    obtain rfl := Except.ok.inj (hn.symm.trans hn')
    obtain ⟨k, hk⟩ := hask _ hname
    exact absurd (hk.symm.trans hr) nofun
  | deeper hs hn hname htrouble ih =>
    obtain ⟨s, hspot, hkind⟩ := htrouble.isDirectory
    exact ih (h.child (d.isName_of_namesAt hn hname)
      (Disk.isDirectory?_eq_true_iff.mpr ⟨s, hspot, hkind⟩))

/-! ### Walks -/

/-- Listing a directory can only be denied. -/
theorem namesAt_eq_error {place : Place} {o : Obstacle} (hkind : d.kindAt place = some .directory)
    (h : d.namesAt place = .error o) : o = .refused .denied := by
  obtain ⟨rights, hnode⟩ := Disk.kindAt_eq_directory_iff.mp hkind
  rw [Disk.namesAt, hnode] at h
  dsimp only at h
  split at h
  · exact absurd h nofun
  · exact (Except.error.inj h).symm

/-- **A visit fails** if the name cannot be asked about, or with the walk of the directory that it
leads to. -/
theorem visit_eq_error_iff (hs : d.spot directory = .ok spot) :
    visit d extension directory relative spot name = .error f ↔
      (∃ r, d.kind? (directory.child name) = .error (.refused r) ∧
        f = .refused r (directory.child name)) ∨
      ∃ s, d.spot (directory.child name) = .ok s ∧ d.kindAt s.place = some .directory ∧
        walk d extension (directory.child name) (relative.child name) s = .error f := by
  constructor
  · intro h
    unfold visit at h
    split at h
    · next o hlook =>
      have hkind : d.kind? (directory.child name) = .error o := by
        rw [kind?_child hs, hlook]
        rfl
      obtain ⟨r, rfl⟩ := Disk.exists_refusal_of_kind? hkind
      exact .inl ⟨r, hkind, (Except.error.inj h).symm⟩
    · next s hlook =>
      obtain ⟨hspot, hkind⟩ := spot_of_lookUp hs hlook
      exact .inr ⟨s, hspot, hkind, h⟩
    · exact absurd h nofun
    · exact absurd h nofun
  · rintro (⟨r, hr, rfl⟩ | ⟨s, hspot, hkind, hwalk⟩)
    · rw [kind?_child hs, map_eq_error_iff] at hr
      rw [visit, hr]
      rfl
    · rw [visit, lookUp_eq_directory hs hspot hkind]
      exact hwalk

/-- A name that was visited well leads to no trouble. -/
theorem not_trouble_of_visit (hs : d.spot directory = .ok spot) {qs : List Path}
    (h : visit d extension directory relative spot name = .ok qs) {rest : List Text} :
    ¬Trouble d directory (name :: rest) f := by
  intro htrouble
  cases htrouble with
  | refused hs' hn hname hr =>
    obtain ⟨k, hk⟩ := kind?_of_visit hs h
    exact absurd (hk.symm.trans hr) nofun
  | deeper hs' hn hname htrouble =>
    obtain ⟨s, hspot, hkind⟩ := htrouble.isDirectory
    have hwalk := walk_of_visit hs hspot hkind h
    exact ((exists_walk_iff hspot).mp ⟨qs, hwalk⟩).not_trouble htrouble

/-- Trouble in a directory that can be listed begins with one of its names. -/
theorem Trouble.exists_cons (h : Trouble d directory names' f) (hs : d.spot directory = .ok spot)
    (hn : d.namesAt spot.place = .ok names) : ∃ n ∈ names, ∃ rest, names' = n :: rest := by
  cases h with
  | unlistable hs' hkind hdenied =>
    obtain rfl := Except.ok.inj (hs.symm.trans hs')
    exact absurd (hn.symm.trans hdenied) nofun
  | refused hs' hn' hname | deeper hs' hn' hname =>
    obtain rfl := Except.ok.inj (hs.symm.trans hs')
    obtain rfl := Except.ok.inj (hn.symm.trans hn')
    exact ⟨_, hname, _, rfl⟩

/-- **The first trouble is below the first name that leads to one.** -/
theorem isFirstTrouble_cons (hs : d.spot directory = .ok spot) {before after rest : List Text}
    (hn : d.namesAt spot.place = .ok (before ++ name :: after))
    (hbefore : ∀ n ∈ before, ∃ qs, visit d extension directory relative spot n = .ok qs)
    (htrouble : Trouble d directory (name :: rest) f)
    (hrest : ∀ {rest' f'}, Trouble d directory (name :: rest') f' → ¬Earlier rest' rest) :
    IsFirstTrouble d directory (name :: rest) f := by
  refine ⟨htrouble, fun {names' f'} htrouble' hearlier ↦ ?_⟩
  obtain ⟨n, hmem, rest', rfl⟩ := htrouble'.exists_cons hs hn
  obtain ⟨-, -, -, hnames⟩ := Disk.namesAt_eq_ok_iff.mp hn
  have hpairwise : (before ++ name :: after).Pairwise Text.Before := hnames ▸ Tree.pairwise_names _ _
  cases hearlier with
  | cons hearlier => exact hrest htrouble' hearlier
  | rel hlt =>
    -- the other name comes earlier, so it was visited before
    rcases List.mem_append.mp hmem with hmem | hmem
    · obtain ⟨qs, hqs⟩ := hbefore n hmem
      exact not_trouble_of_visit hs hqs htrouble'
    · have hafter := (List.pairwise_cons.mp (List.pairwise_append.mp hpairwise).2.1).1
      rcases List.mem_cons.mp hmem with rfl | hmem
      · exact hlt.2 rfl
      · exact Std.Asymm.asymm _ _ hlt (hafter n hmem)

/-- **A walk that fails met a trouble, and none before it.** -/
theorem exists_firstTrouble (hs : d.spot directory = .ok spot)
    (hkind : d.kindAt spot.place = some .directory)
    (h : walk d extension directory relative spot = .error f) :
    ∃ names, IsFirstTrouble d directory names f := by
  induction directory, relative, spot using walk.induct d with
  | case1 directory relative spot o hn =>
    obtain rfl := namesAt_eq_error hkind hn
    rw [walk_eq, hn] at h
    obtain rfl := Except.error.inj h
    exact ⟨[], .unlistable hs hkind hn, fun _ ↦ not_earlier_nil⟩
  | case2 directory relative spot names hn ih =>
    rw [walk_eq, hn] at h
    obtain ⟨before, name, after, rfl, hbefore, hvisit⟩ :=
      mapM_eq_error_iff.mp (map_eq_error_iff.mp h)
    have hname : name ∈ before ++ name :: after := List.mem_append_right _ List.mem_cons_self
    rcases (visit_eq_error_iff hs).mp hvisit with ⟨r, hr, rfl⟩ | ⟨s, hspot, hkind', hwalk⟩
    · exact ⟨[name], isFirstTrouble_cons hs hn hbefore (.refused hs hn hname hr) fun _ ↦ not_earlier_nil⟩
    · obtain ⟨rest, hfirst⟩ :=
        ih name hname s (lookUp_eq_directory hs hspot hkind') hspot hkind' hwalk
      refine ⟨name :: rest,
        isFirstTrouble_cons hs hn hbefore (.deeper hs hn hname hfirst.trouble) fun htrouble ↦ ?_⟩
      cases htrouble with
      | refused hs' hn' hname' hr =>
        cases (Disk.kind?_of_spot hspot).symm.trans hr
      | deeper hs' hn' hname' htrouble => exact hfirst.first htrouble

/-- **A walk fails with the first trouble**, and with nothing else. -/
theorem walk_eq_error_iff (hs : d.spot directory = .ok spot)
    (hkind : d.kindAt spot.place = some .directory) :
    walk d extension directory relative spot = .error f ↔
      ∃ names, IsFirstTrouble d directory names f := by
  refine ⟨exists_firstTrouble hs hkind, ?_⟩
  rintro ⟨names, hfirst⟩
  cases hwalk : walk d extension directory relative spot with
  | ok ps => exact absurd hfirst.trouble ((exists_walk_iff hs).mp ⟨ps, hwalk⟩).not_trouble
  | error f' =>
    obtain ⟨names', hfirst'⟩ := exists_firstTrouble hs hkind hwalk
    rw [hfirst.unique hfirst']

end Discovery

end StyleLinter
