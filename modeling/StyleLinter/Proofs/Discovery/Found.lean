import StyleLinter.Discovery.Search
import StyleLinter.Proofs.Order
import StyleLinter.Proofs.Path
import StyleLinter.Proofs.Sequence

/-!
# The files that are found

What is known of the files of a root, however they were named: they come in the order of their paths
(`ordered_of_files`), and they are among the candidates (`mem_candidates_of_mem_files`). Of a walk
more is known: **every file lies below its root**, at least one name further down, and the names on
the way are names of directories on the disk, so its path is normal (`isBelow_of_mem_walk`).

A walk is a recursion over what is on the disk, and `visit` is the part of it that is about one
name.
-/

namespace StyleLinter.Discovery

open Files

/-! ### Walks -/

/-- What a walk finds under one name of the directory at a spot. -/
def visit (d : Disk) (extension : Text) (directory relative : Path) (spot : Spot) (name : Text) :
    Except Failure (List Path) :=
  match lookUp d spot (directory.child name) name with
  | .error o => .error (.ofObstacle (directory.child name) o)
  | .ok (.directory s) => walk d extension (directory.child name) (relative.child name) s
  | .ok .file => .ok (if hasExtension extension name then [relative.child name] else [])
  | .ok .nothing => .ok []

/-- **A walk visits the names of a directory one after the other.** -/
theorem walk_eq (d : Disk) (extension : Text) (directory relative : Path) (spot : Spot) :
    walk d extension directory relative spot =
      match d.namesAt spot.place with
      | .error o => .error (listingObstacle directory o)
      | .ok names => (names.mapM (visit d extension directory relative spot)).map List.flatten := by
  rw [walk]
  split
  · next o h => rw [h]
  · next names h =>
    rw [h]
    dsimp only
    rw [← mapM_attach (visit d extension directory relative spot) names]
    refine congrArg (Except.map List.flatten) (mapM_congr fun x _ ↦ ?_)
    obtain ⟨name, hm⟩ := x
    unfold visit
    dsimp only
    split <;> next hl => rw [hl]

/-- Is the path below the other one, by names that something can have? -/
def IsBelow (p root : Path) : Prop :=
  p.slashes = root.slashes ∧
    ∃ names : List Text, names ≠ [] ∧ (∀ n ∈ names, Tree.isName n = true) ∧
      p.parts = root.parts ++ names

theorem isBelow_child (p : Path) {name : Text} (h : Tree.isName name = true) :
    IsBelow (p.child name) p :=
  ⟨rfl, [name], List.cons_ne_nil _ _, fun _ hn ↦ List.mem_singleton.mp hn ▸ h, rfl⟩

theorem IsBelow.of_child {p root : Path} {name : Text} (hp : IsBelow p (root.child name))
    (h : Tree.isName name = true) : IsBelow p root := by
  obtain ⟨hslashes, names, -, hnames, hparts⟩ := hp
  refine ⟨hslashes, name :: names, List.cons_ne_nil _ _, fun n hn ↦ ?_, ?_⟩
  · rcases List.mem_cons.mp hn with rfl | hn
    · exact h
    · exact hnames n hn
  · rw [hparts, Path.child, List.append_assoc, List.singleton_append]

/-- **A path below a normal path is normal.** -/
theorem IsBelow.isNormal {p root : Path} (hp : IsBelow p root) (hroot : root.IsNormal) :
    p.IsNormal := by
  obtain ⟨hslashes, names, -, hnames, hparts⟩ := hp
  refine ⟨hslashes ▸ hroot.slashes, fun t ht ↦ ?_, fun t ht ↦ ?_⟩ <;> rw [hparts] at ht
  · rcases List.mem_append.mp ht with ht | ht
    · exact hroot.isPart t ht
    · obtain ⟨hne, hdot, -, -⟩ := Tree.isName_iff.mp (hnames t ht)
      exact Path.isPart_iff.mpr ⟨hne, hdot⟩
  · rcases List.mem_append.mp ht with ht | ht
    · exact hroot.no_slash t ht
    · exact (Tree.isName_iff.mp (hnames t ht)).2.2.2

theorem IsBelow.leadsDown {p root : Path} (hp : IsBelow p root) (hroot : root.LeadsDown) :
    p.LeadsDown := by
  obtain ⟨hslashes, names, hne, hnames, hparts⟩ := hp
  refine ⟨hslashes.trans hroot.slashes, fun hnil ↦ hne ?_, fun t ht ↦ ?_⟩
  · exact (List.append_eq_nil_iff.mp (hparts.symm.trans hnil)).2
  · rw [hparts] at ht
    rcases List.mem_append.mp ht with ht | ht
    · exact hroot.parts t ht
    · obtain ⟨-, hdot, hdots, -⟩ := Tree.isName_iff.mp (hnames t ht)
      exact ⟨hdot, hdots⟩

/-- Nothing is below itself. -/
theorem not_isBelow_self (p : Path) : ¬ IsBelow p p := by
  rintro ⟨-, names, hne, -, hparts⟩
  exact hne (List.append_right_eq_self.mp hparts.symm)

/-- **What a walk finds lies below where it began.** -/
theorem isBelow_of_mem_walk {d : Disk} {extension : Text} {directory relative : Path} {spot : Spot}
    {ps : List Path} (h : walk d extension directory relative spot = .ok ps) {p : Path}
    (hp : p ∈ ps) : IsBelow p relative := by
  -- the walk below a name starts at its child, so what it finds is below the directory as well
  induction directory, relative, spot using walk.induct d generalizing ps with
  | case1 directory relative spot o hn =>
    rw [walk_eq, hn] at h
    exact absurd h nofun
  | case2 directory relative spot names hn ih =>
    rw [walk_eq, hn] at h
    obtain ⟨pss, hpss, rfl⟩ := map_eq_ok_iff.mp h
    obtain ⟨qs, hqs, hp⟩ := List.mem_flatten.mp hp
    obtain ⟨name, hmem, hvisit⟩ := exists_of_mem_mapM hpss hqs
    have hname := d.isName_of_namesAt hn hmem
    unfold visit at hvisit
    split at hvisit
    · exact absurd hvisit nofun
    · next s hl => exact (ih name hmem s hl hvisit hp).of_child hname
    · obtain rfl := Except.ok.inj hvisit
      rw [List.mem_ite_nil_right, List.mem_singleton] at hp
      rw [hp.2]
      exact isBelow_child relative hname
    · obtain rfl := Except.ok.inj hvisit
      exact absurd hp List.not_mem_nil

theorem isBelow_of_mem_walkRoot {host : Host} {base root : Path} {extension : Text} {ps : List Path}
    (h : walkRoot host base root extension = .ok ps) {p : Path} (hp : p ∈ ps) : IsBelow p root := by
  simp only [walkRoot] at h
  split at h
  · exact absurd h nofun
  · exact absurd h nofun
  · split at h
    · exact absurd h nofun
    · exact isBelow_of_mem_walk h hp

/-! ### Files -/

namespace Search

variable {s : Search} {host : Host} {root : Path} {files : List Path}

/-- Without a lister the candidates are what a walk finds. -/
theorem outcome_candidates_of_walk (hlister : s.lister = none) :
    (s.candidates host root).outcome = walkRoot host s.base root s.extension := by
  rw [candidates, hlister]
  rfl

/-- A lister names the candidates. -/
theorem candidates_eq_ok_iff_of_lister {lister : Lister} (hlister : s.lister = some lister)
    {candidates : List Path} : (s.candidates host root).outcome = .ok candidates ↔
      ∃ names, (lister.names host s.base root s.extension).outcome = .ok names ∧
        candidates = (names.filter (!·.isEmpty)).map Path.ofText := by
  rw [Search.candidates, hlister]
  refine Attempt.outcome_bind_eq_ok_iff.trans (exists_congr fun names ↦ and_congr_right fun _ ↦ ?_)
  exact ⟨fun h ↦ (Except.ok.inj h).symm, fun h ↦ congrArg Except.ok h.symm⟩

/-- There are no candidates if the lister fails. -/
theorem candidates_eq_error_iff_of_lister {lister : Lister} (hlister : s.lister = some lister)
    {f : Failure} : (s.candidates host root).outcome = .error f ↔
      (lister.names host s.base root s.extension).outcome = .error f := by
  rw [Search.candidates, hlister]
  exact Attempt.outcome_bind_eq_error_iff.trans (or_iff_left fun ⟨_, _, h⟩ ↦ nomatch h)

/-- The order in which the files of a root come. -/
def Ordered (files : List Path) : Prop :=
  files.Pairwise fun p q ↦ Text.le p.toText q.toText = true

theorem eq_of_mem_keep {path p : Path} {kept : List Path}
    (h : (s.keep host root path).outcome = .ok kept) (hp : p ∈ kept) : p = path := by
  unfold keep at h
  split at h
  · obtain rfl := Except.ok.inj h
    exact absurd hp List.not_mem_nil
  · split at h
    · exact absurd h nofun
    · obtain rfl := Except.ok.inj h
      exact List.mem_singleton.mp hp
    · obtain rfl := Except.ok.inj h
      exact absurd hp List.not_mem_nil

/-- The steps of a search that ends. -/
theorem steps_of_files (h : (s.files host root).outcome = .ok files) :
    root ≠ Path.here ∧ ∃ candidates kept, (s.candidates host root).outcome = .ok candidates ∧
      candidates.mapM (fun p ↦ (s.keep host root p).outcome) = .ok kept ∧
      files = kept.flatten.mergeSort fun p q ↦ Text.le p.toText q.toText := by
  obtain ⟨text, htext, h⟩ := Attempt.outcome_bind_eq_ok_iff.mp h
  obtain ⟨candidates, hcandidates, h⟩ := Attempt.outcome_bind_eq_ok_iff.mp h
  obtain ⟨kept, hkept, h⟩ := Attempt.outcome_bind_eq_ok_iff.mp h
  obtain ⟨-, -, h⟩ := Attempt.outcome_bind_eq_ok_iff.mp h
  rw [Attempt.outcome_mapM] at hkept
  refine ⟨?_, candidates, kept, hcandidates, hkept, (Except.ok.inj h).symm⟩
  rintro rfl
  exact absurd htext nofun

/-- Sorting brings files into this order. -/
theorem ordered_mergeSort (files : List Path) :
    Ordered (files.mergeSort fun p q ↦ Text.le p.toText q.toText) := by
  have htrans : ∀ p q r : Path, Text.le p.toText q.toText = true →
      Text.le q.toText r.toText = true → Text.le p.toText r.toText = true :=
    fun _ _ _ ↦ Text.le_trans
  have htotal : ∀ p q : Path, (Text.le p.toText q.toText || Text.le q.toText p.toText) = true :=
    fun p q ↦ Bool.or_eq_true _ _ ▸ Text.le_total p.toText q.toText
  exact List.pairwise_mergeSort htrans htotal _

/-- **Files can be ordered in one way only.** -/
theorem eq_of_perm_of_ordered {files' : List Path} (hnormal : ∀ p ∈ files, p.IsNormal)
    (h : Ordered files) (h' : Ordered files') (hperm : files.Perm files') : files = files' := by
  refine List.Perm.eq_of_pairwise (fun p q hp hq hpq hqp ↦ ?_) h h' hperm
  exact Path.eq_of_toText_eq (hnormal p hp) (hnormal q (hperm.mem_iff.mpr hq))
    (Text.le_antisymm hpq hqp)

/-- **The files of a root come in the order of their paths.** -/
theorem ordered_of_files (h : (s.files host root).outcome = .ok files) : Ordered files := by
  obtain ⟨-, _, kept, -, -, rfl⟩ := steps_of_files h
  exact ordered_mergeSort _

/-- The files of a root are candidates. -/
theorem mem_candidates_of_mem_files (h : (s.files host root).outcome = .ok files) :
    ∃ candidates, (s.candidates host root).outcome = .ok candidates ∧ ∀ p ∈ files, p ∈ candidates := by
  obtain ⟨-, candidates, kept, hcandidates, hkept, rfl⟩ := steps_of_files h
  refine ⟨candidates, hcandidates, fun p hp ↦ ?_⟩
  obtain ⟨ps, hps, hp⟩ := List.mem_flatten.mp (List.mem_mergeSort.mp hp)
  obtain ⟨q, hq, hkeep⟩ := exists_of_mem_mapM hkept hps
  exact eq_of_mem_keep hkeep hp ▸ hq

/-- **The files that a walk finds lie below their root.** -/
theorem isBelow_of_mem_files (hs : s.lister = none) (h : (s.files host root).outcome = .ok files)
    {p : Path} (hp : p ∈ files) : IsBelow p root := by
  obtain ⟨candidates, hcandidates, hmem⟩ := mem_candidates_of_mem_files h
  rw [outcome_candidates_of_walk hs] at hcandidates
  exact isBelow_of_mem_walkRoot hcandidates (hmem p hp)

end Search

end StyleLinter.Discovery
