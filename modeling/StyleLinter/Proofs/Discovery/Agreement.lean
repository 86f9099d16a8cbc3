import Mathlib
import StyleLinter.Proofs.Discovery.Selected
import StyleLinter.Proofs.Discovery.Walkable

/-!
# Listings and walks

A lister is asked for the names that match a pattern: the text of the root, a slash, any
characters, and the extension. Say that it names all regular files that match, each once
(`NamesAll`). Then **all of these files are found** (`files_of_namesAll`), and every file that a
walk finds is one of them.

The two do not agree on a file whose name is **nothing but the extension**: the pattern asks for no
character before it, and a walk does. Apart from this they agree, as long as the walk ends well
(`listing_agrees_iff`).
-/

namespace StyleLinter.Discovery

open Files

theorem isRelative_of_isName {p : Path} (hslashes : p.slashes = 0)
    (hnames : ∀ n ∈ p.parts, Tree.isName n = true) : p.IsRelative := by
  refine ⟨⟨by omega, fun n hn ↦ ?_, fun n hn ↦ ?_⟩, hslashes⟩
  · obtain ⟨hne, hdot, -, -⟩ := Tree.isName_iff.mp (hnames n hn)
    exact Path.isPart_iff.mpr ⟨hne, hdot⟩
  · exact (Tree.isName_iff.mp (hnames n hn)).2.2.2

theorem isName_of_mem_parts {p : Path} (hp : p.IsRelative) (hdots : (".." : Text) ∉ p.parts) :
    ∀ n ∈ p.parts, Tree.isName n = true := by
  intro n hn
  obtain ⟨hne, hdot⟩ := Path.isPart_iff.mp (hp.isNormal.isPart n hn)
  exact Tree.isName_iff.mpr ⟨hne, hdot, fun h ↦ hdots (h ▸ hn), hp.isNormal.no_slash n hn⟩

/-! ### The pattern -/

/-- Does a text match the pattern that a lister is asked about? Any characters may stand between the
slash and the extension, slashes too. -/
def Matches (root extension t : Text) : Prop := ∃ middle, t = root ++ '/' :: middle ++ extension

section Pattern

variable {root p : Path} {extension : Text}

/-- The text of a path below a root whose last name ends with the extension. -/
theorem toText_below_concat (hroot : root.IsRelative) (hne : root ≠ Path.here) (front : List Text)
    (stem extension : Text) : (root.below (front ++ [stem ++ extension])).toText =
      root.toText ++ '/' :: Text.joinWith "/" (front ++ [stem]) ++ extension := by
  have hparts := hroot.parts_ne_nil hne
  have hconcat (last : Text) : front ++ [last] ≠ [] :=
    List.append_ne_nil_of_right_ne_nil _ (List.cons_ne_nil _ _)
  rw [Path.toText_of_parts (List.append_ne_nil_of_right_ne_nil _ (hconcat _)), Path.below,
    Text.joinWith_append hparts (hconcat _), ← Text.joinWith_concat_append,
    Path.toText_of_parts hparts, hroot.slashes]
  simp

/-- **A path matches if it is below the root and its last name ends with the extension.** -/
theorem matches_iff (hroot : root.IsRelative) (hne : root ≠ Path.here) (hp : p.IsRelative)
    (hextension : '/' ∉ extension) : Matches root.toText extension p.toText ↔
      ∃ front stem, p = root.below (front ++ [stem ++ extension]) := by
  have hparts := hroot.parts_ne_nil hne
  constructor
  · rintro ⟨middle, hmiddle⟩
    have hpparts : p.parts ≠ [] := by
      intro hnil
      rw [Path.toText, if_pos ⟨hp.slashes, hnil⟩] at hmiddle
      have hmem : '/' ∈ (".".toList : Text) := hmiddle ▸ by simp
      exact absurd hmem (by decide)
    obtain ⟨front, stem, hpieces⟩ := Text.exists_pieces_concat '/' middle
    -- a text is cut at its slashes in one way only
    refine ⟨front, stem, Path.eq_of_parts_eq (hp.slashes.trans hroot.slashes.symm) ?_⟩
    rw [← hp.pieces_toText hpparts, hmiddle, List.append_assoc, List.cons_append,
      Text.pieces_append_sep, hroot.pieces_toText hparts,
      Text.pieces_append_of_not_mem hextension hpieces, Path.below]
  · rintro ⟨front, stem, rfl⟩
    exact ⟨_, toText_below_concat hroot hne front stem extension⟩

/-- The aggregator of a root does not match. -/
theorem Matches.ne_aggregator {t : Text} (h : Matches root.toText extension t) :
    t ≠ aggregatorText root.toText extension := by
  obtain ⟨middle, rfl⟩ := h
  intro he
  have hlength := congrArg List.length he
  simp only [aggregatorText, List.length_append, List.length_cons] at hlength
  omega

theorem hasExtension_iff {name : Text} :
    hasExtension extension name = true ↔ ∃ stem, stem ≠ [] ∧ name = stem ++ extension := by
  rw [hasExtension, Bool.and_eq_true, Text.endsWith, List.isSuffixOf_iff_suffix, bne_iff_ne]
  constructor
  · rintro ⟨⟨stem, rfl⟩, hne⟩
    exact ⟨stem, fun hnil ↦ hne (hnil ▸ rfl), rfl⟩
  · rintro ⟨stem, hstem, rfl⟩
    exact ⟨List.suffix_append _ _, fun he ↦ hstem (List.append_left_eq_self.mp he)⟩

end Pattern

/-! ### Both kinds of search -/

namespace Search

variable {s : Search} {host : Host} {root p : Path} {lister : Lister} {names : List Text}
  {files : List Path} {stem : Text}

/-- The search that walks the directories. -/
def byWalk (s : Search) : Search := { s with lister := none }

/-- Is this the text of a path to a regular file, taken from the workspace? -/
def IsFile (s : Search) (host : Host) (t : Text) : Prop :=
  ∃ p : Path, p.slashes = 0 ∧ (∀ n ∈ p.parts, Tree.isName n = true) ∧ p.toText = t ∧
    host.disk.kind? (s.base / p) = .ok (some .file)

/-- Are these the names of all regular files that match the pattern of a root, each once? -/
structure NamesAll (s : Search) (host : Host) (root : Path) (names : List Text) : Prop where
  nodup : names.Nodup
  mem_iff : ∀ t, t ∈ names ↔ Matches root.toText s.extension t ∧ s.IsFile host t

/-- Does the path lead down from the root to a regular file whose name is the stem with the
extension? -/
def IsSource (s : Search) (host : Host) (root p : Path) (stem : Text) : Prop :=
  ∃ front, p = root.below (front ++ [stem ++ s.extension]) ∧
    (∀ n ∈ front ++ [stem ++ s.extension], Tree.isName n = true) ∧
    host.disk.kind? (s.base / p) = .ok (some .file)

theorem IsSource.isBelow (h : s.IsSource host root p stem) : IsBelow p root := by
  obtain ⟨front, rfl, hnames, -⟩ := h
  exact ⟨rfl, _, List.append_ne_nil_of_right_ne_nil _ (List.cons_ne_nil _ _), hnames, rfl⟩

theorem IsSource.isThere (h : s.IsSource host root p stem) :
    host.disk.exists? (s.base / p) = .ok true := by
  obtain ⟨front, -, -, hkind⟩ := h
  rw [Disk.exists?, hkind]
  rfl

section Root

variable (hroot : root.IsRelative) (hne : root ≠ Path.here)

include hroot

theorem IsSource.isRelative (h : s.IsSource host root p stem) : p.IsRelative :=
  ⟨h.isBelow.isNormal hroot.isNormal, h.isBelow.1.trans hroot.slashes⟩

include hne

theorem IsSource.ne_aggregator (h : s.IsSource host root p stem) :
    p.toText ≠ aggregatorText root s.extension := by
  obtain ⟨front, rfl, -, -⟩ := h
  exact Matches.ne_aggregator ⟨_, toText_below_concat hroot hne front stem s.extension⟩

end Root

/-- The last name of the path is nothing but the extension if there is no stem. -/
theorem IsSource.getLast?_eq_iff (h : s.IsSource host root p stem) :
    p.parts.getLast? = some s.extension ↔ stem = [] := by
  obtain ⟨front, rfl, -, -⟩ := h
  rw [Path.below, ← List.append_assoc, List.getLast?_concat, Option.some.injEq,
    List.append_left_eq_self]

/-- **What the names spell.** -/
theorem mem_candidates_iff_of_namesAll (hroot : root.IsRelative)
    (hdots : (".." : Text) ∉ root.parts) (hne : root ≠ Path.here)
    (hextension : '/' ∉ s.extension) (hall : s.NamesAll host root names) :
    p ∈ (names.filter (!·.isEmpty)).map Path.ofText ↔ ∃ stem, s.IsSource host root p stem := by
  rw [List.mem_map]
  constructor
  · rintro ⟨t, ht, rfl⟩
    obtain ⟨hmatch, q, hslashes, hnames, rfl, hkind⟩ :=
      (hall.mem_iff t).mp (List.mem_filter.mp ht).1
    have hq : q.IsRelative := isRelative_of_isName hslashes hnames
    rw [Path.ofText_toText hq.isNormal]
    obtain ⟨front, stem, rfl⟩ := (matches_iff hroot hne hq hextension).mp hmatch
    exact ⟨stem, front, rfl, fun n hn ↦ hnames n (List.mem_append_right _ hn), hkind⟩
  · rintro ⟨stem, hsource⟩
    have hp := hsource.isRelative hroot
    refine ⟨p.toText, List.mem_filter.mpr
      ⟨(hall.mem_iff _).mpr ⟨?_, p, hp.slashes, ?_, rfl, ?_⟩, ?_⟩, Path.ofText_toText hp.isNormal⟩
    · obtain ⟨front, rfl, -, -⟩ := hsource
      exact (matches_iff hroot hne hp hextension).mpr ⟨front, stem, rfl⟩
    · obtain ⟨front, rfl, hnames, -⟩ := hsource
      intro n hn
      rcases List.mem_append.mp hn with hn | hn
      · exact isName_of_mem_parts hroot hdots n hn
      · exact hnames n hn
    · obtain ⟨front, -, -, hkind⟩ := hsource
      exact hkind
    · rw [Bool.not_eq_true', List.isEmpty_eq_false_iff]
      exact Path.toText_ne_nil hp.isNormal

/-- **What a walk comes to** are the sources whose names have something before the extension. -/
theorem mem_walkRoot_iff_isSource (hroot : root.IsRelative) {ps : List Path}
    (h : walkRoot host s.base root s.extension = .ok ps) :
    p ∈ ps ↔ ∃ stem, stem ≠ [] ∧ s.IsSource host root p stem := by
  rw [mem_walkRoot_iff h]
  constructor
  · rintro ⟨ns, ⟨hnames, ⟨front, name, rfl, hname⟩, hkind⟩, rfl⟩
    obtain ⟨stem, hstem, rfl⟩ := hasExtension_iff.mp hname
    refine ⟨stem, hstem, front, rfl, hnames, ?_⟩
    rw [Path.join_below hroot.slashes]
    exact hkind
  · rintro ⟨stem, hstem, front, rfl, hnames, hkind⟩
    rw [Path.join_below hroot.slashes] at hkind
    exact ⟨_, ⟨hnames, ⟨front, _, rfl, hasExtension_iff.mpr ⟨stem, hstem, rfl⟩⟩, hkind⟩, rfl⟩

/-- All sources are kept. -/
theorem keeps_of_isSource (hroot : root.IsRelative) (hne : root ≠ Path.here)
    (h : s.IsSource host root p stem) : s.keeps host root p = true := by
  rw [keeps, Bool.and_eq_true, bne_iff_ne, isThere_iff]
  exact ⟨h.ne_aggregator hroot hne, h.isThere⟩

/-- **The files of a root are its candidates**, if these are sources. -/
theorem files_of_isSource (hroot : root.IsRelative) (hne : root ≠ Path.here)
    {candidates : List Path} (hcandidates : (s.candidates host root).outcome = .ok candidates)
    (hsources : ∀ p ∈ candidates, ∃ stem, s.IsSource host root p stem) :
    (s.files host root).outcome =
      .ok (candidates.mergeSort fun p q ↦ Text.le p.toText q.toText) := by
  refine files_eq_ok_iff.mpr ⟨hne, candidates, hcandidates, fun p hp ↦ ?_, ?_⟩
  · obtain ⟨stem, hsource⟩ := hsources p hp
    exact .inr ⟨true, hsource.isThere⟩
  · rw [List.filter_eq_self.mpr fun p hp ↦ ?_]
    obtain ⟨stem, hsource⟩ := hsources p hp
    exact keeps_of_isSource hroot hne hsource

/-- The workspace itself is no root. -/
theorem files_here (s : Search) (host : Host) :
    (s.files host Path.here).outcome = .error (.discovery Path.here .noRoot) := rfl

/-- **All that is named is found.** -/
theorem files_of_namesAll (hroot : root.IsRelative) (hdots : (".." : Text) ∉ root.parts)
    (hne : root ≠ Path.here) (hextension : '/' ∉ s.extension) (hlister : s.lister = some lister)
    (hnames : (lister.names host s.base root s.extension).outcome = .ok names)
    (hall : s.NamesAll host root names) :
    ∃ files, (s.files host root).outcome = .ok files ∧
      (files.map (·.toText)).Perm names ∧ ∀ p, p ∈ files ↔ ∃ stem, s.IsSource host root p stem := by
  have hcandidates : (s.candidates host root).outcome =
      .ok ((names.filter (!·.isEmpty)).map Path.ofText) :=
    (candidates_eq_ok_iff_of_lister hlister).mpr ⟨names, hnames, rfl⟩
  refine ⟨_, files_of_isSource hroot hne hcandidates fun p hp ↦
    (mem_candidates_iff_of_namesAll hroot hdots hne hextension hall).mp hp, ?_, fun p ↦ ?_⟩
  · refine ((List.mergeSort_perm _ _).map _).trans ?_
    -- each name is the text of the path that it spells
    have htext : ∀ t ∈ names, t.isEmpty = false ∧ (Path.ofText t).toText = t := by
      intro t ht
      obtain ⟨-, q, hslashes, hq, rfl, -⟩ := (hall.mem_iff t).mp ht
      have hnormal := (isRelative_of_isName hslashes hq).isNormal
      exact ⟨List.isEmpty_eq_false_iff.mpr (Path.toText_ne_nil hnormal),
        congrArg _ (Path.ofText_toText hnormal)⟩
    have hmap : names.map ((·.toText) ∘ Path.ofText) = names :=
      (List.map_congr_left fun t ht ↦ (htext t ht).2).trans (List.map_id' names)
    rw [List.filter_eq_self.mpr fun t ht ↦ by rw [(htext t ht).1]; rfl, List.map_map, hmap]
  · rw [List.mem_mergeSort]
    exact mem_candidates_iff_of_namesAll hroot hdots hne hextension hall

/-- **Listings agree with walks on all names but those that are nothing but the extension.** Let a
lister name all regular files that match the pattern of a relative root without double dots, each
once. Then all of them are found. This is what a walk finds exactly if the walk ends well and no
name is nothing but the extension. The workspace itself is no root for either of the two. -/
theorem listing_agrees_iff (hroot : root.IsRelative) (hdots : (".." : Text) ∉ root.parts)
    (hextension : '/' ∉ s.extension) (hlister : s.lister = some lister)
    (hnames : (lister.names host s.base root s.extension).outcome = .ok names)
    (hall : s.NamesAll host root names) :
    (root ≠ Path.here → ∃ files, (s.files host root).outcome = .ok files ∧
      (files.map (·.toText)).Perm names) ∧
    ((s.files host root).outcome = (s.byWalk.files host root).outcome ↔
      root = Path.here ∨ CanBeWalked host.disk (s.base / root) ∧
        ∀ name ∈ names, (Path.ofText name).parts.getLast? ≠ some s.extension) := by
  by_cases hne : root = Path.here
  · subst hne
    exact ⟨fun h ↦ absurd rfl h,
      fun _ ↦ .inl rfl, fun _ ↦ (files_here s host).trans (files_here s.byWalk host).symm⟩
  obtain ⟨files, hfiles, htexts, hmem⟩ :=
    files_of_namesAll hroot hdots hne hextension hlister hnames hall
  refine ⟨fun _ ↦ ⟨files, hfiles, htexts⟩, ?_⟩
  rw [hfiles, or_iff_right hne]
  constructor
  · intro hwalked
    obtain ⟨-, ps, hps, -, -⟩ := files_eq_ok_iff.mp hwalked.symm
    have hwalk : walkRoot host s.base root s.extension = .ok ps := hps
    refine ⟨exists_walkRoot_iff.mp ⟨ps, hwalk⟩, fun name hname hbare ↦ ?_⟩
    obtain ⟨p, hp, rfl⟩ := List.mem_map.mp (htexts.mem_iff.mpr hname)
    obtain ⟨stem, hsource⟩ := (hmem p).mp hp
    rw [Path.ofText_toText (hsource.isRelative hroot).isNormal] at hbare
    obtain ⟨stem', hstem', hsource'⟩ := (mem_walkRoot_iff_isSource hroot hwalk).mp
      ((mem_files_iff hwalked.symm hps).mp hp).1
    exact hstem' (hsource'.getLast?_eq_iff.mp hbare)
  · rintro ⟨hwalkable, hbare⟩
    obtain ⟨ps, hwalk⟩ := exists_walkRoot_iff.mpr hwalkable
    have hmemWalk {p : Path} := mem_walkRoot_iff_isSource (p := p) hroot hwalk
    have hwalked : (s.byWalk.files host root).outcome = _ :=
      files_of_isSource hroot hne hwalk fun p hp ↦ by
        obtain ⟨stem, -, hsource⟩ := hmemWalk.mp hp
        exact ⟨stem, hsource⟩
    rw [hwalked]
    refine congrArg _ (eq_of_perm_of_files hroot.isNormal hfiles hwalked ?_)
    have hnodup : files.Nodup := .of_map _ (htexts.nodup_iff.mpr hall.nodup)
    refine (List.perm_ext_iff_of_nodup hnodup (nodup_of_files rfl hwalked)).mpr fun p ↦ ?_
    rw [List.mem_mergeSort, hmem, hmemWalk]
    refine exists_congr fun stem ↦ ⟨fun hsource ↦ ⟨?_, hsource⟩, fun h ↦ h.2⟩
    rintro rfl
    have hname := htexts.mem_iff.mp (List.mem_map.mpr ⟨p, (hmem p).mpr ⟨[], hsource⟩, rfl⟩)
    refine hbare _ hname ?_
    rw [Path.ofText_toText (hsource.isRelative hroot).isNormal]
    exact hsource.getLast?_eq_iff.mpr rfl

/-! ### A name that is nothing but the extension -/

/-- A workspace with two files, one of which is named like the extension. -/
def bareHost : Host where
  disk :=
    { tree := ((Tree.empty.put ["A"] (.directory {})).put ["A", "X.lean"] (.file {} [])).put
        ["A", ".lean"] (.file {} [])
      current := [] }
  git := none

/-- The names of the two files. -/
def bareNames : List Text := ["A/X.lean", "A/.lean"]

/-- A search with a lister that names both. -/
def bareSearch : Search where
  base := Path.here
  lister := some (.given bareNames)

/-- The directory that the files are in. -/
def bareRoot : Path := ⟨0, ["A"]⟩

theorem eq_of_isFile_bareHost {p : Path} (hslashes : p.slashes = 0)
    (hnames : ∀ n ∈ p.parts, Tree.isName n = true)
    (hkind : bareHost.disk.kind? (Path.here / p) = .ok (some .file)) :
    p.parts = ["A", "X.lean"] ∨ p.parts = ["A", ".lean"] := by
  have hnodes : ∀ e ∈ bareHost.disk.tree.nodes,
      e.1 = ["A"] ∧ e.2 = .directory {} ∨ e.1 = ["A", "X.lean"] ∧ e.2 = .file {} [] ∨
        e.1 = ["A", ".lean"] ∧ e.2 = .file {} [] := by decide
  have hlinkless : bareHost.disk.tree.Linkless := by
    refine Tree.linkless_of_nodes fun e he target hlink ↦ ?_
    rcases hnodes e he with ⟨-, h⟩ | ⟨-, h⟩ | ⟨-, h⟩ <;> cases h.symm.trans hlink
  have hhere : bareHost.disk.spot Path.here = .ok ⟨[], 0⟩ := by cbv
  obtain ⟨s, hs, hfile⟩ := Disk.spot_of_kind? hkind
  have hplace : s.place = p.parts := by
    rw [Path.join_eq_below hslashes] at hs
    by_cases hnil : p.parts = []
    · rw [hnil] at hs ⊢
      obtain rfl := Except.ok.inj (hhere.symm.trans hs)
      rfl
    · exact Disk.place_of_spot_below hlinkless hnil (fun n hn ↦
        ⟨(Tree.isName_iff.mp (hnames n hn)).2.1, (Tree.isName_iff.mp (hnames n hn)).2.2.1⟩) hhere hs
  rw [hplace] at hfile
  obtain ⟨n, hn⟩ := Option.ne_none_iff_exists'.mp (Disk.node?_of_kindAt hfile)
  by_cases hnil : p.parts = []
  · rw [hnil] at hfile
    cases hfile
  · rcases hnodes _ (Tree.mem_nodes_of_node? hnil hn) with ⟨-, h⟩ | ⟨h, -⟩ | ⟨h, -⟩
    · rw [Disk.kindAt, hn, show n = .directory {} from h] at hfile
      cases hfile
    · exact .inl h
    · exact .inr h

theorem namesAll_bareHost : bareSearch.NamesAll bareHost bareRoot bareNames where
  nodup := by decide
  mem_iff t := by
    constructor
    · intro ht
      rcases List.mem_pair.mp ht with rfl | rfl
      · exact ⟨⟨"X", rfl⟩, ⟨0, ["A", "X.lean"]⟩, rfl, by decide, rfl, by cbv⟩
      · exact ⟨⟨[], rfl⟩, ⟨0, ["A", ".lean"]⟩, rfl, by decide, rfl, by cbv⟩
    · rintro ⟨-, ⟨slashes, parts⟩, hslashes, hnames, rfl, hkind⟩
      obtain rfl : slashes = 0 := hslashes
      rcases eq_of_isFile_bareHost rfl hnames hkind with h | h
      · obtain rfl : parts = _ := h
        decide
      · obtain rfl : parts = _ := h
        decide

/-- **A listing and a walk that do not agree.** -/
theorem listing_agrees_iff_bare :
    (∃ files, (bareSearch.files bareHost bareRoot).outcome = .ok files ∧ files.length = 2) ∧
      (bareSearch.files bareHost bareRoot).outcome ≠
        (bareSearch.byWalk.files bareHost bareRoot).outcome := by
  have hroot : bareRoot.IsRelative := Path.isRelative_ofText (t := "A") (by decide)
  obtain ⟨hfound, hagree⟩ :=
    listing_agrees_iff hroot (by decide) (by decide) rfl rfl namesAll_bareHost
  refine ⟨?_, fun hsame ↦ ?_⟩
  · obtain ⟨files, hfiles, htexts⟩ := hfound (by decide)
    have hlength := htexts.length_eq
    rw [List.length_map] at hlength
    exact ⟨files, hfiles, hlength⟩
  · obtain ⟨-, hbare⟩ := (hagree.mp hsame).resolve_left (by decide)
    exact hbare "A/.lean" (by decide) rfl

end Search

end StyleLinter.Discovery
