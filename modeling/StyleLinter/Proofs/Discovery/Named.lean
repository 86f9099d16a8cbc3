import Mathlib
import StyleLinter.Proofs.Discovery.Selected

/-!
# The files that a lister names

A lister names files in any order and in any spelling, and some that are gone. What is made of a
listing does not depend on any of this: **the names are read as paths, those of the aggregator and
of what is not there are left out, and the rest is sorted** (`files_eq_ok_iff_of_names`). Each path
stays as often as it was named.

So the order of the names does not matter, and neither do names that have no bearing on what is
found (`listing_is_filtered_and_sorted`).
-/

namespace StyleLinter.Discovery.Search

open Files

variable {s : Search} {host : Host} {root : Path} {lister : Lister} {names names' extra : List Text}
  {files : List Path}

/-! ### The paths of a listing -/

/-- The paths that a listing spells. An empty name spells none. -/
def entries (names : List Text) : List Path := (names.filter (!·.isEmpty)).map Path.ofText

theorem isNormal_of_mem_entries {p : Path} (hp : p ∈ entries names) : p.IsNormal := by
  obtain ⟨name, -, rfl⟩ := List.mem_map.mp hp
  exact Path.isNormal_ofText name

theorem entries_append (names extra : List Text) :
    entries (names ++ extra) = entries names ++ entries extra := by
  rw [entries, List.filter_append, List.map_append]
  rfl

theorem entries_perm (h : names.Perm names') : (entries names).Perm (entries names') :=
  (h.filter _).map _

/-- **The files of a root that a lister has named** are the paths that are kept, in order. -/
theorem files_eq_ok_iff_of_names (hne : root ≠ Path.here) (hlister : s.lister = some lister)
    (hnames : (lister.names host s.base root s.extension).outcome = .ok names) :
    (s.files host root).outcome = .ok files ↔
      (∀ p ∈ entries names, s.Decides host root p) ∧
        files.Perm ((entries names).filter (s.keeps host root)) ∧ Ordered files := by
  have hcandidates : (s.candidates host root).outcome = .ok (entries names) :=
    (candidates_eq_ok_iff_of_lister hlister).mpr ⟨names, hnames, rfl⟩
  constructor
  · intro h
    obtain ⟨-, _, hcandidates', hdecides, hfiles⟩ := files_eq_ok_iff.mp h
    obtain rfl := Except.ok.inj (hcandidates.symm.trans hcandidates')
    exact ⟨hdecides, hfiles ▸ List.mergeSort_perm _ _, ordered_of_files h⟩
  · rintro ⟨hdecides, hperm, hordered⟩
    refine files_eq_ok_iff.mpr ⟨hne, _, hcandidates, hdecides, ?_⟩
    refine eq_of_perm_of_ordered (fun p hp ↦ ?_) hordered (ordered_mergeSort _)
      (hperm.trans (List.mergeSort_perm _ _).symm)
    exact isNormal_of_mem_entries (List.mem_filter.mp (hperm.mem_iff.mp hp)).1

/-! ### Names without bearing -/

/-- Has a name no bearing on what is found? It spells the aggregator of the root, or a file that is
not there. -/
def Ignores (s : Search) (host : Host) (root : Path) (name : Text) : Prop :=
  (Path.ofText name).toText = aggregatorText root s.extension ∨
    host.disk.exists? (s.base / Path.ofText name) = .ok false

theorem Ignores.decides {name : Text} (h : s.Ignores host root name) :
    s.Decides host root (Path.ofText name) :=
  h.imp_right fun hgone ↦ ⟨false, hgone⟩

theorem Ignores.not_keeps {name : Text} (h : s.Ignores host root name) :
    ¬ s.keeps host root (Path.ofText name) = true := by
  rw [keeps, Bool.and_eq_true, bne_iff_ne, isThere_iff]
  rintro ⟨hne, hthere⟩
  rcases h with htext | hgone
  · exact hne htext
  · exact absurd (Except.ok.inj (hgone.symm.trans hthere)) Bool.false_ne_true

theorem filter_entries_of_ignores (h : ∀ name ∈ extra, s.Ignores host root name) :
    (entries extra).filter (s.keeps host root) = [] := by
  refine List.filter_eq_nil_iff.mpr fun p hp ↦ ?_
  obtain ⟨name, hname, rfl⟩ := List.mem_map.mp hp
  exact (h name (List.mem_filter.mp hname).1).not_keeps

/-- The search with another lister. -/
def withLister (s : Search) (lister : Lister) : Search := { s with lister := some lister }

/-! ### Listings -/

/-- **A listing is filtered and sorted, and nothing else.** The files that are found are the paths
that the names spell, without the aggregator of the root and without what is not there, each as
often as it is named, and in the order of their texts. All of them are found unless it cannot be
decided whether one of them is there. So a listing in another order comes to the same, and so does
one with names that spell the aggregator or what is not there, wherever they stand. -/
theorem listing_is_filtered_and_sorted (hne : root ≠ Path.here) (hlister : s.lister = some lister)
    (hnames : (lister.names host s.base root s.extension).outcome = .ok names) :
    (∀ files, (s.files host root).outcome = .ok files ↔
      (∀ p ∈ entries names, s.Decides host root p) ∧
        files.Perm ((entries names).filter (s.keeps host root)) ∧ Ordered files) ∧
    ∀ lister' names' extra, (lister'.names host s.base root s.extension).outcome = .ok names' →
      names'.Perm (names ++ extra) → (∀ name ∈ extra, s.Ignores host root name) →
        ∀ files, ((s.withLister lister').files host root).outcome = .ok files ↔
          (s.files host root).outcome = .ok files := by
  refine ⟨fun files ↦ files_eq_ok_iff_of_names hne hlister hnames,
    fun lister' names' extra hnames' hperm hextra files ↦ ?_⟩
  have hentries : (entries names').Perm (entries names ++ entries extra) :=
    entries_append names extra ▸ entries_perm hperm
  have hdecides : (∀ p ∈ entries names', s.Decides host root p) ↔
      ∀ p ∈ entries names, s.Decides host root p := by
    refine ⟨fun h p hp ↦ h p (hentries.mem_iff.mpr (List.mem_append_left _ hp)), fun h p hp ↦ ?_⟩
    rcases List.mem_append.mp (hentries.mem_iff.mp hp) with hp | hp
    · exact h p hp
    · obtain ⟨name, hname, rfl⟩ := List.mem_map.mp hp
      exact (hextra name (List.mem_filter.mp hname).1).decides
  have hkept : ((entries names').filter (s.keeps host root)).Perm
      ((entries names).filter (s.keeps host root)) := by
    have hfilter := hentries.filter (s.keeps host root)
    rwa [List.filter_append, filter_entries_of_ignores hextra, List.append_nil] at hfilter
  have hother : ((s.withLister lister').files host root).outcome = .ok files ↔
      (∀ p ∈ entries names', s.Decides host root p) ∧
        files.Perm ((entries names').filter (s.keeps host root)) ∧ Ordered files :=
    files_eq_ok_iff_of_names hne rfl hnames'
  rw [hother, hdecides, files_eq_ok_iff_of_names hne hlister hnames]
  refine and_congr_right fun _ ↦ and_congr_left fun _ ↦ ?_
  exact ⟨fun h ↦ h.trans hkept, fun h ↦ h.trans hkept.symm⟩

/-! ### A loose listing -/

/-- A workspace with two files and the aggregator of their directory. -/
def looseHost : Host where
  disk :=
    { tree := (((Tree.empty.put ["A"] (.directory {})).put ["A", "B.lean"] (.file {} [])).put
        ["A", "X.lean"] (.file {} [])).put ["A.lean"] (.file {} [])
      current := [] }
  git := none

/-- Names of the two files, one of them in two spellings, and a name that is empty. -/
def looseNames : List Text := ["A//X.lean", "A/B.lean", "", "A/X.lean"]

/-- The same names in another order, with the aggregator and a file that is gone. -/
def looserNames : List Text := ["A/X.lean", "A.lean/", "", "A/gone.lean", "A//X.lean", "A/B.lean"]

/-- A search with a lister that gives the names. -/
def looseSearch : Search where
  base := Path.here
  lister := some (.given looseNames)

/-- The directory that the files are in. -/
def looseRoot : Path := ⟨0, ["A"]⟩

/-- What is found. -/
def looseFiles : List Path := [⟨0, ["A", "B.lean"]⟩, ⟨0, ["A", "X.lean"]⟩, ⟨0, ["A", "X.lean"]⟩]

/-- **Two listings that come to the same files.** -/
theorem listing_is_filtered_and_sorted_loose :
    (looseSearch.files looseHost looseRoot).outcome = .ok looseFiles ∧
    ((looseSearch.withLister (.given looserNames)).files looseHost looseRoot).outcome =
      .ok looseFiles := by
  obtain ⟨hfound, hsame⟩ :=
    @listing_is_filtered_and_sorted looseSearch looseHost looseRoot _ _ (by decide) rfl rfl
  have hkept : (entries looseNames).filter (looseSearch.keeps looseHost looseRoot) =
      [⟨0, ["A", "X.lean"]⟩, ⟨0, ["A", "B.lean"]⟩, ⟨0, ["A", "X.lean"]⟩] := by cbv
  have hfiles : (looseSearch.files looseHost looseRoot).outcome = .ok looseFiles := by
    refine (hfound looseFiles).mpr ⟨fun p hp ↦ .inr ⟨true, ?_⟩, hkept ▸ by decide, ?_⟩
    · have hentries : entries looseNames =
          [⟨0, ["A", "X.lean"]⟩, ⟨0, ["A", "B.lean"]⟩, ⟨0, ["A", "X.lean"]⟩] := by decide
      rw [hentries, List.mem_cons, List.mem_pair] at hp
      rcases hp with rfl | rfl | rfl <;> cbv
    · exact .cons (by decide) (.cons (by decide) (List.pairwise_singleton _ _))
  refine ⟨hfiles, (hsame _ _ ["A.lean/", "A/gone.lean"] rfl (by decide) ?_ _).mpr hfiles⟩
  intro name hname
  rcases List.mem_pair.mp hname with rfl | rfl
  · exact .inl (by decide)
  · exact .inr (by cbv)

end StyleLinter.Discovery.Search
