import StyleLinter.Proofs.Aggregator.Turn
import StyleLinter.Proofs.Discovery.Agreement

/-!
# The files that are listed

A walk that ends well lists the source files of its root: **the regular files below the root whose
names have the extension and something before it** (`isListed_iff`). Each comes once, and they come
in strictly increasing order of their texts (`pairwise_before_of_files`), which is not the order in
which directories are walked: `A/B-x.lean` and `A/B.lean` come before `A/B/C.lean`.

The aggregator of the root is beside the root and so never listed, but the aggregators of the roots
below it are (`walk_lists_exactly`).
-/

namespace StyleLinter

namespace Files.Disk

variable {d : Disk} {p : Path}

theorem isFile?_eq_true_iff : d.isFile? p = .ok true ↔ d.kind? p = .ok (some .file) := by
  rw [isFile?, map_eq_ok_iff]
  constructor
  · rintro ⟨k, hk, hfile⟩
    exact hk.trans (congrArg Except.ok (beq_iff_eq.mp hfile))
  · exact fun hk ↦ ⟨_, hk, rfl⟩

end Files.Disk

namespace Discovery.Search

open Files

variable {s : Search} {host : Host} {root : Path} {files : List Path} {names : List Text}

/-! ### Order -/

/-- **Files that are found once come in strictly increasing order.** -/
theorem pairwise_before_of_files (hroot : root.IsNormal)
    (h : (s.files host root).outcome = .ok files) (hnodup : files.Nodup) :
    files.Pairwise fun p q ↦ Text.Before p.toText q.toText := by
  refine ((ordered_of_files h).and hnodup).imp_of_mem ?_
  rintro p q hp hq ⟨hle, hne⟩
  refine ⟨hle, fun htext ↦ hne ?_⟩
  exact Path.eq_of_toText_eq (isNormal_of_mem_files hroot h hp) (isNormal_of_mem_files hroot h hq)
    htext

/-! ### Source files -/

/-- Do the names lead down from a root to a source file? They go over directories to a regular file
whose name ends with the extension and is longer. -/
structure IsListed (s : Search) (host : Host) (root : Path) (names : List Text) : Prop where
  isName : ∀ n ∈ names, Tree.isName n = true
  /-- Each name but the last leads to a directory, and so does the root. -/
  isDirectory : ∀ front rest, names = front ++ rest → rest ≠ [] →
    host.disk.isDirectory? (s.base / root.below front) = .ok true
  isFile : host.disk.isFile? (s.base / root.below names) = .ok true
  /-- The last name has the extension, and something before it. -/
  hasExtension : ∃ front stem, stem ≠ [] ∧ names = front ++ [stem ++ s.extension]

/-- **The source files are the files that a walk comes to.** -/
theorem isListed_iff (hroot : root.slashes = 0) : s.IsListed host root names ↔
    LeadsToSource host.disk s.extension (s.base / root) names := by
  constructor
  · rintro ⟨hnames, -, hfile, front, stem, hstem, rfl⟩
    rw [Path.join_below hroot] at hfile
    exact ⟨hnames, ⟨front, _, rfl, hasExtension_iff.mpr ⟨stem, hstem, rfl⟩⟩,
      Disk.isFile?_eq_true_iff.mp hfile⟩
  · rintro ⟨hnames, ⟨front, name, rfl, hname⟩, hkind⟩
    obtain ⟨stem, hstem, rfl⟩ := hasExtension_iff.mp hname
    refine ⟨hnames, fun before rest hsplit hrest ↦ ?_, ?_, front, stem, hstem, rfl⟩
    · -- the file is below every name on the way
      rw [hsplit, ← Path.below_below] at hkind
      obtain ⟨spot, hs, -⟩ := Disk.spot_of_kind? hkind
      rw [Path.join_below hroot]
      exact Disk.isDirectory?_eq_true_iff.mpr (kindAt_of_spot_below hrest hs)
    · rw [Path.join_below hroot]
      exact Disk.isFile?_eq_true_iff.mpr hkind

/-! ### What is listed -/

/-- **A walk lists exactly the source files of its root, each once, in order.** It ends well exactly
if it may look at everything below the root. Then the texts of the paths are strictly increasing,
and a path is listed exactly if names lead over directories down from the root to a regular file
with the extension. So nothing outside the root is listed, nor is its aggregator, but the
aggregators of the roots below it are. -/
theorem walk_lists_exactly (hlister : s.lister = none) (hroot : root.IsRelative) :
    ((∃ files, (s.files host root).outcome = .ok files) ↔
      root ≠ Path.here ∧ CanBeWalked host.disk (s.base / root)) ∧
    ∀ files, (s.files host root).outcome = .ok files →
      files.Pairwise (fun p q ↦ Text.Before p.toText q.toText) ∧
      (∀ p, p ∈ files ↔ ∃ names, s.IsListed host root names ∧ p = root.below names) ∧
      (∀ p ∈ files, IsBelow p root ∧ p.toText ≠ aggregatorText root.toText s.extension) ∧
      ∀ names, names ≠ [] → (∀ n ∈ names, Tree.isName n = true) → '/' ∉ s.extension →
        host.disk.isFile? (s.base / Aggregator.path (root.below names) s.extension) = .ok true →
          Aggregator.path (root.below names) s.extension ∈ files := by
  have hcandidates {ps : List Path} :
      (s.candidates host root).outcome = .ok ps ↔ walkRoot host s.base root s.extension = .ok ps := by
    rw [outcome_candidates_of_walk hlister]
  constructor
  · rw [← @exists_walkRoot_iff s.extension]
    constructor
    · rintro ⟨files, h⟩
      obtain ⟨hne, ps, hps, -⟩ := files_eq_ok_iff.mp h
      exact ⟨hne, ps, hcandidates.mp hps⟩
    · rintro ⟨hne, ps, hwalk⟩
      refine ⟨_, files_of_isSource hroot hne (hcandidates.mpr hwalk) fun p hp ↦ ?_⟩
      obtain ⟨stem, -, hsource⟩ := (mem_walkRoot_iff_isSource hroot hwalk).mp hp
      exact ⟨stem, hsource⟩
  intro files h
  obtain ⟨hne, ps, hps, -⟩ := files_eq_ok_iff.mp h
  have hwalk := hcandidates.mp hps
  -- all that a walk comes to is kept
  have hmem (p : Path) : p ∈ files ↔ ∃ names, s.IsListed host root names ∧ p = root.below names := by
    simp only [isListed_iff hroot.slashes]
    rw [← mem_walkRoot_iff hwalk, mem_files_iff h hps]
    refine ⟨fun hp ↦ hp.1, fun hp ↦ ⟨hp, ?_⟩⟩
    obtain ⟨stem, -, hsource⟩ := (mem_walkRoot_iff_isSource hroot hwalk).mp hp
    exact ⟨hsource.ne_aggregator hroot hne, hsource.isThere⟩
  refine ⟨pairwise_before_of_files hroot.isNormal h (nodup_of_files hlister h), hmem, fun p hp ↦ ?_,
    fun names hnil hnames hextension hfile ↦ ?_⟩
  · exact ⟨isBelow_of_mem_files hlister h hp, ((mem_files_iff h hps).mp hp).2.1⟩
  · obtain ⟨front, name, hconcat⟩ := (List.eq_nil_or_concat names).resolve_left hnil
    rw [List.concat_eq_append] at hconcat
    subst hconcat
    rw [Aggregator.path_below_concat hroot.isNormal hnames hextension,
      Path.join_below hroot.slashes] at hfile
    rw [Aggregator.path_below_concat hroot.isNormal hnames hextension, hmem]
    have hstem := (Tree.isName_iff.mp (hnames name List.mem_concat_self)).1
    refine ⟨_, (isListed_iff hroot.slashes).mpr ⟨?_, ⟨front, _, rfl, ?_⟩,
      Disk.isFile?_eq_true_iff.mp hfile⟩, rfl⟩
    · exact Aggregator.forall_isName_append hnames hextension
    · exact hasExtension_iff.mpr ⟨name, hstem, rfl⟩

/-! ### A library with a link -/

/-- A workspace with a root, a directory below it and their aggregators, where a link leads to the
directory as well. -/
def linkedHost : Host where
  disk :=
    { tree := ((((((Tree.empty.put ["A"] (.directory {})).put ["A", "B"] (.directory {})).put
        ["A", "B", "C.lean"] (.file {} [])).put ["A", "B.lean"] (.file {} [])).put
        ["A", "B-x.lean"] (.file {} [])).put ["A", "L"] (.link "B")).put ["A.lean"] (.file {} [])
      current := [] }
  git := none

/-- A search that walks the workspace. -/
def linkedSearch : Search where
  base := Path.here

/-- The root. -/
def linkedRoot : Path := ⟨0, ["A"]⟩

/-- What is listed. -/
def linkedFiles : List Path :=
  [⟨0, ["A", "B-x.lean"]⟩, ⟨0, ["A", "B.lean"]⟩, ⟨0, ["A", "B", "C.lean"]⟩,
    ⟨0, ["A", "L", "C.lean"]⟩]

theorem walk_inner_linkedHost (name : Text) (links : Nat) (h : lookUp linkedHost.disk
    ⟨["A", "B"], links⟩ (Path.child ⟨0, ["A", name]⟩ "C.lean") "C.lean" = .ok .file) :
    walk linkedHost.disk ".lean" ⟨0, ["A", name]⟩ ⟨0, ["A", name]⟩ ⟨["A", "B"], links⟩ =
      .ok [⟨0, ["A", name, "C.lean"]⟩] := by
  have hnames : linkedHost.disk.namesAt ["A", "B"] = .ok ["C.lean"] := by cbv
  have hvisit : visit linkedHost.disk ".lean" ⟨0, ["A", name]⟩ ⟨0, ["A", name]⟩ ⟨["A", "B"], links⟩
      "C.lean" = .ok [⟨0, ["A", name, "C.lean"]⟩] := by
    rw [visit, h]
    rfl
  rw [walk_eq, hnames]
  exact map_eq_ok_iff.mpr ⟨_, mapM_eq_ok_iff.mpr (.cons hvisit .nil), rfl⟩

theorem walk_linkedHost : walk linkedHost.disk ".lean" ⟨0, ["A"]⟩ ⟨0, ["A"]⟩ ⟨["A"], 0⟩ =
    .ok [⟨0, ["A", "B", "C.lean"]⟩, ⟨0, ["A", "B-x.lean"]⟩, ⟨0, ["A", "B.lean"]⟩,
      ⟨0, ["A", "L", "C.lean"]⟩] := by
  have hnames : linkedHost.disk.namesAt ["A"] = .ok ["B", "B-x.lean", "B.lean", "L"] := by cbv
  have hdirectory : lookUp linkedHost.disk ⟨["A"], 0⟩ (Path.child ⟨0, ["A"]⟩ "B") "B" =
      .ok (.directory ⟨["A", "B"], 0⟩) := by cbv
  have hlink : lookUp linkedHost.disk ⟨["A"], 0⟩ (Path.child ⟨0, ["A"]⟩ "L") "L" =
      .ok (.directory ⟨["A", "B"], 1⟩) := by cbv
  have hdirectory' : visit linkedHost.disk ".lean" ⟨0, ["A"]⟩ ⟨0, ["A"]⟩ ⟨["A"], 0⟩ "B" =
      .ok [⟨0, ["A", "B", "C.lean"]⟩] := by
    rw [visit, hdirectory]
    exact walk_inner_linkedHost _ _ (by cbv)
  have hlink' : visit linkedHost.disk ".lean" ⟨0, ["A"]⟩ ⟨0, ["A"]⟩ ⟨["A"], 0⟩ "L" =
      .ok [⟨0, ["A", "L", "C.lean"]⟩] := by
    rw [visit, hlink]
    exact walk_inner_linkedHost _ _ (by cbv)
  have hfile : lookUp linkedHost.disk ⟨["A"], 0⟩ (Path.child ⟨0, ["A"]⟩ "B-x.lean") "B-x.lean" =
      .ok .file := by cbv
  have haggregator : lookUp linkedHost.disk ⟨["A"], 0⟩ (Path.child ⟨0, ["A"]⟩ "B.lean") "B.lean" =
      .ok .file := by cbv
  have hfile' : visit linkedHost.disk ".lean" ⟨0, ["A"]⟩ ⟨0, ["A"]⟩ ⟨["A"], 0⟩ "B-x.lean" =
      .ok [⟨0, ["A", "B-x.lean"]⟩] := by
    rw [visit, hfile]
    rfl
  have haggregator' : visit linkedHost.disk ".lean" ⟨0, ["A"]⟩ ⟨0, ["A"]⟩ ⟨["A"], 0⟩ "B.lean" =
      .ok [⟨0, ["A", "B.lean"]⟩] := by
    rw [visit, haggregator]
    rfl
  rw [walk_eq, hnames]
  exact map_eq_ok_iff.mpr ⟨_, mapM_eq_ok_iff.mpr (.cons hdirectory' (.cons hfile'
    (.cons haggregator' (.cons hlink' .nil)))), rfl⟩

theorem files_linkedHost : (linkedSearch.files linkedHost linkedRoot).outcome = .ok linkedFiles := by
  have hwalk : walkRoot linkedHost Path.here linkedRoot ".lean" = .ok _ :=
    walkRoot_eq_ok_iff.mpr ⟨⟨["A"], 0⟩, by cbv, by cbv, walk_linkedHost⟩
  refine files_eq_ok_iff.mpr ⟨by decide, _, hwalk, fun p hp ↦ .inr ⟨true, ?_⟩, by cbv⟩
  simp only [List.mem_cons, List.not_mem_nil, or_false] at hp
  rcases hp with rfl | rfl | rfl | rfl <;> cbv

/-- **A file is listed on both ways to it, and the aggregator further down with it.** -/
theorem walk_lists_exactly_linked :
    linkedFiles.Pairwise (fun p q ↦ Text.Before p.toText q.toText) ∧
    linkedSearch.IsListed linkedHost linkedRoot ["L", "C.lean"] ∧
    Aggregator.path ⟨0, ["A", "B"]⟩ ".lean" ∈ linkedFiles ∧
    ∀ p ∈ linkedFiles, p.toText ≠ "A.lean" := by
  have hroot : linkedRoot.IsRelative := Path.isRelative_ofText (t := "A") (by decide)
  obtain ⟨-, hlisted⟩ := @walk_lists_exactly linkedSearch linkedHost linkedRoot rfl hroot
  obtain ⟨hordered, hmem, hout, hnested⟩ := hlisted _ files_linkedHost
  refine ⟨hordered, ?_, hnested ["B"] (by decide) (by decide) (by decide) (by cbv),
    fun p hp ↦ (hout p hp).2⟩
  obtain ⟨names, hnames, hp⟩ := (hmem ⟨0, ["A", "L", "C.lean"]⟩).mp (by decide)
  obtain rfl : names = ["L", "C.lean"] := (Path.below_injective linkedRoot hp).symm
  exact hnames

end Discovery.Search

end StyleLinter
