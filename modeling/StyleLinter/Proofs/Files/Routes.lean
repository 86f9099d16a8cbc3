import Mathlib.Data.List.Flatten
import StyleLinter.Proofs.Files.Growth
import StyleLinter.Proofs.Path
import StyleLinter.Proofs.Sequence

/-!
# Routes along paths

A route goes on from where its first part leads (`follow_append`), and it ends somewhere only if its
first part leads somewhere (`exists_of_follow_append`). For paths this says that what is below a
path is decided by the spot of the path and the names on the way down (`land_below`).

**Without symbolic links, the names of a route that leads down spell the place where it ends**
(`place_of_follow`), so paths that lead down to the same place are equal (`eq_of_spot_place`).
-/

namespace StyleLinter.Files

/-- The place where a route ends. -/
def Landing.place : Landing → Place
  | found s => s.place
  | vacant dir name => dir ++ [name]

namespace Tree

variable {t : Tree} {links : Nat} {dir : Place} {front rest : List Text} {s : Spot} {l : Landing}

/-! ### Parts of routes -/

/-- **A route goes on from where its first part leads.** -/
theorem follow_append (h : t.follow links dir front = .ok (.found s)) (rest : List Text) :
    t.follow links dir (front ++ rest) = t.follow s.links s.place rest := by
  -- along the first part, with the rest behind it; in the other cases it does not lead anywhere
  fun_induction Tree.follow t links dir front with
  | case1 =>
    obtain rfl := Landing.found.inj (Except.ok.inj h)
    rfl
  | case2 => cases h
  | case3 links dir names hp ih => exact (follow_dot hp).trans (ih h)
  | case4 links dir names hp _ ih => exact (follow_dots hp).trans (ih h)
  | case5 => cases h
  | case6 => cases h
  | case7 => cases h
  | case8 links dir name names hp hdot hdots hlen target hn hlt ih =>
    rw [List.cons_append, follow_link hp hdot hdots hlen hn hlt, ← List.append_assoc]
    exact ih h
  | case9 => cases h
  | case10 links dir name names hp hdot hdots hlen n hlink hn ih =>
    rw [List.cons_append, follow_down hp hdot hdots hlen hn hlink]
    exact ih h

/-- **A route that ends somewhere leads somewhere on the way.** -/
theorem exists_of_follow_append (hrest : rest ≠ [])
    (h : t.follow links dir (front ++ rest) = .ok l) :
    ∃ s, t.follow links dir front = .ok (.found s) := by
  fun_induction Tree.follow t links dir front with
  | case1 links dir => exact ⟨⟨dir, links⟩, rfl⟩
  | case2 links dir name names r hp =>
    rw [List.cons_append, follow, hp] at h
    cases h
  | case3 links dir names hp ih => exact ih ((follow_dot hp).symm.trans h)
  | case4 links dir names hp _ ih => exact ih ((follow_dots hp).symm.trans h)
  | case5 links dir name names hp hdot hdots hlen =>
    rw [List.cons_append, follow, hp] at h
    simp only [if_neg hdot, if_neg hdots, if_pos hlen] at h
    cases h
  | case6 links dir name hp hdot hdots hlen hn =>
    -- nothing is below a vacant name
    rw [List.cons_append, List.nil_append, follow, hp] at h
    simp only [if_neg hdot, if_neg hdots, if_neg hlen, hn, if_neg hrest] at h
    cases h
  | case7 links dir name names hp hdot hdots hlen hn hnames =>
    have hne : names ++ rest ≠ [] := fun he ↦ hnames (List.append_eq_nil_iff.mp he).1
    rw [List.cons_append, follow, hp] at h
    simp only [if_neg hdot, if_neg hdots, if_neg hlen, hn, if_neg hne] at h
    cases h
  | case8 links dir name names hp hdot hdots hlen target hn hlt ih =>
    rw [List.cons_append, follow_link hp hdot hdots hlen hn hlt, ← List.append_assoc] at h
    exact ih h
  | case9 links dir name names hp hdot hdots hlen target hn hlt =>
    rw [List.cons_append, follow, hp] at h
    simp only [if_neg hdot, if_neg hdots, if_neg hlen, hn, dif_neg hlt] at h
    cases h
  | case10 links dir name names hp hdot hdots hlen n hlink hn ih =>
    rw [List.cons_append, follow_down hp hdot hdots hlen hn hlink] at h
    exact ih h

/-- A step that stays leads somewhere if the owner gets through the directory. -/
theorem follow_dot_of_follow (hrest : rest ≠ []) (h : t.follow links dir rest = .ok l) :
    t.follow links dir [".".toList] = .ok (.found ⟨dir, links⟩) := by
  obtain ⟨name, rest, rfl⟩ := List.exists_cons_of_ne_nil hrest
  have hp : t.passage dir = .ok () := by
    rw [follow] at h
    split at h
    · cases h
    · next hp => exact hp
  exact (follow_dot hp).trans follow_nil

theorem spot_of_follow_dot (h : t.follow links dir [".".toList] = .ok (.found s)) :
    s = ⟨dir, links⟩ := by
  have hdot := follow_dot_of_follow (List.cons_ne_nil _ _) h
  exact (Landing.found.inj (Except.ok.inj (hdot.symm.trans h))).symm

/-! ### Trees without links -/

/-- Are there no symbolic links in the tree? -/
def Linkless (t : Tree) : Prop := ∀ p target, t.node? p ≠ some (.link target)

/-- Does no name in the tree have the character? -/
def Lacks (t : Tree) (c : Char) : Prop := ∀ p, t.node? p ≠ none → ∀ name ∈ p, c ∉ name

theorem mem_nodes_of_node? {p : Place} {n : Node} (hp : p ≠ []) (h : t.node? p = some n) :
    (p, n) ∈ t.nodes := by
  rw [node?, if_neg hp] at h
  obtain ⟨⟨q, m⟩, hfind, rfl⟩ := Option.map_eq_some_iff.mp h
  have hplace : q = p := by simpa using List.find?_some hfind
  subst hplace
  exact List.mem_of_find?_eq_some hfind

theorem linkless_of_nodes (h : ∀ e ∈ t.nodes, ∀ target, e.2 ≠ .link target) : t.Linkless := by
  intro p target hp
  by_cases hnil : p = []
  · subst hnil
    exact absurd hp nofun
  · exact h _ (mem_nodes_of_node? hnil hp) target rfl

theorem lacks_of_nodes {c : Char} (h : ∀ e ∈ t.nodes, ∀ name ∈ e.1, c ∉ name) : t.Lacks c := by
  intro p hp name hname
  obtain ⟨n, hn⟩ := Option.ne_none_iff_exists'.mp hp
  exact h _ (mem_nodes_of_node? (List.ne_nil_of_mem hname) hn) name hname

/-- **Without links, a route that leads down ends where its names say.** -/
theorem place_of_follow (ht : t.Linkless) {names : List Text}
    (hnames : ∀ n ∈ names, n ≠ "." ∧ n ≠ "..") (h : t.follow links dir names = .ok l) :
    l.place = dir ++ names := by
  fun_induction Tree.follow t links dir names with
  | case1 links dir =>
    obtain rfl := Except.ok.inj h
    exact (List.append_nil dir).symm
  | case2 | case5 | case7 | case9 => cases h
  | case3 => exact absurd rfl (hnames _ List.mem_cons_self).1
  | case4 => exact absurd rfl (hnames _ List.mem_cons_self).2
  | case6 links dir name =>
    obtain rfl := Except.ok.inj h
    rfl
  | case8 links dir name rest _ _ _ _ target hn => exact absurd hn (ht _ _)
  | case10 links dir name rest _ _ _ _ n _ _ ih =>
    rw [ih (fun n hn ↦ hnames n (List.mem_cons_of_mem _ hn)) h, List.append_assoc,
      List.singleton_append]

/-- Without links, none is followed. -/
theorem links_of_follow (ht : t.Linkless) {names : List Text}
    (h : t.follow links dir names = .ok (.found s)) : s.links = links := by
  fun_induction Tree.follow t links dir names with
  | case1 links dir =>
    obtain rfl := Landing.found.inj (Except.ok.inj h)
    rfl
  | case2 | case5 | case6 | case7 | case9 => cases h
  | case8 links dir name rest _ _ _ _ target hn => exact absurd hn (ht _ _)
  | case3 _ _ _ _ ih | case4 _ _ _ _ _ ih | case10 _ _ _ _ _ _ _ _ _ _ _ ih => exact ih h

end Tree

/-! ### Paths -/

namespace Disk

variable {d d' : Disk} {p q base : Path} {s : Spot} {names : List Text}

theorem admissible_of_land {l : Landing} (h : d.land p = .ok l) :
    admissible p = .ok () ∧ d.tree.follow 0 (d.start p) (route p) = .ok l := by
  unfold land at h
  split at h
  · exact absurd h nofun
  · next ha => exact ⟨ha, mapError_eq_ok_iff.mp h⟩

theorem spot_of_land {s : Spot} (h : d.land p = .ok (.found s)) : d.spot p = .ok s := by
  rw [spot, h]

theorem land_of_spot {s : Spot} (h : d.spot p = .ok s) : d.land p = .ok (.found s) := by
  unfold spot at h
  split at h
  · exact absurd h nofun
  · next s' hs =>
    obtain rfl := Except.ok.inj h
    exact hs
  · exact absurd h nofun

/-- A path that lands somewhere lands there on a disk that has grown. -/
theorem spot_of_within (hcur : d'.current = d.current) (h : d.tree.Within d'.tree) {s : Spot}
    (hs : d.spot p = .ok s) : d'.spot p = .ok s := by
  obtain ⟨ha, hf⟩ := admissible_of_land (land_of_spot hs)
  have hstart : d'.start p = d.start p := by rw [start, start, hcur]
  refine spot_of_land ?_
  rw [land, ha, hstart]
  exact mapError_eq_ok_iff.mpr (Tree.follow_of_within h hf)

/-! ### Paths below a path -/

/-- A path can be passed on if a path with a longer text can. -/
theorem admissible_of_sublist (htext : q.toText.Sublist p.toText) (h : admissible p = .ok ()) :
    admissible q = .ok () := by
  have hbytes : (Utf8.encode q).length ≤ (Utf8.encode p).length :=
    (htext.flatMap Utf8.encodeChar).length_le
  unfold admissible at h ⊢
  split at h
  · exact absurd h nofun
  · next hnul =>
    split at h
    · exact absurd h nofun
    · next hlong =>
      have hnul' : ¬ q.toText.contains '\x00' = true := by
        rw [List.contains_iff_mem] at hnul ⊢
        exact fun hmem ↦ hnul (htext.subset hmem)
      rw [if_neg hnul', if_neg (by omega)]

/-- A path can be passed on if a path below it can. -/
theorem admissible_of_below (h : admissible (p.below names) = .ok ()) : admissible p = .ok () := by
  by_cases hp : p = Path.here
  · subst hp
    decide
  · exact admissible_of_sublist (Path.toText_prefix_below hp names).sublist h

theorem start_below (d : Disk) (p : Path) (names : List Text) :
    d.start (p.below names) = d.start p := rfl

theorem route_below (hnames : names ≠ []) (p : Path) : route (p.below names) = p.parts ++ names :=
  if_neg (Path.below_ne_here hnames p)

/-- **What is below a path is decided by the spot of the path.** -/
theorem land_below (hs : d.spot p = .ok s) (hnames : names ≠ [])
    (ha : admissible (p.below names) = .ok ()) :
    d.land (p.below names) = (d.tree.follow s.links s.place names).mapError .refused := by
  have hf := (admissible_of_land (land_of_spot hs)).2
  have hroute : d.tree.follow 0 (d.start p) (p.parts ++ names) =
      d.tree.follow s.links s.place names := by
    by_cases hp : p = Path.here
    · subst hp
      obtain rfl := Tree.spot_of_follow_dot hf
      rfl
    · rw [route, if_neg hp] at hf
      exact Tree.follow_append hf names
  rw [land, ha, route_below hnames, start_below, hroute]

/-- **What is below a path is somewhere only if the path leads somewhere.** -/
theorem exists_spot_of_land_below (hnames : names ≠ []) {l : Landing}
    (h : d.land (p.below names) = .ok l) :
    ∃ s, d.spot p = .ok s ∧ d.tree.follow s.links s.place names = .ok l := by
  obtain ⟨ha, hf⟩ := admissible_of_land h
  rw [route_below hnames, start_below] at hf
  have hp : ∃ s, d.tree.follow 0 (d.start p) (route p) = .ok (.found s) := by
    by_cases hp : p = Path.here
    · subst hp
      exact ⟨_, Tree.follow_dot_of_follow hnames hf⟩
    · rw [route, if_neg hp]
      exact Tree.exists_of_follow_append hnames hf
  obtain ⟨s, hs⟩ := hp
  have hspot : d.spot p = .ok s := by
    refine spot_of_land ?_
    rw [land, admissible_of_below ha]
    exact mapError_eq_ok_iff.mpr hs
  exact ⟨s, hspot, mapError_eq_ok_iff.mp ((land_below hspot hnames ha).symm.trans h)⟩

theorem exists_spot_of_spot_below {s' : Spot} (hnames : names ≠ [])
    (h : d.spot (p.below names) = .ok s') :
    ∃ s, d.spot p = .ok s ∧ d.tree.follow s.links s.place names = .ok (.found s') :=
  exists_spot_of_land_below hnames (land_of_spot h)

/-- A path leads down from a base only if the base leads somewhere. -/
theorem exists_spot_of_spot_join (hp : p.LeadsDown) (hs : d.spot (base / p) = .ok s) :
    ∃ spot, d.spot base = .ok spot := by
  rw [Path.join_eq_below hp.slashes] at hs
  obtain ⟨spot, hbase, -⟩ := exists_spot_of_spot_below hp.parts_ne_nil hs
  exact ⟨spot, hbase⟩

/-! ### Places -/

section Linkless

variable (ht : d.tree.Linkless)

include ht

/-- Without links, none is followed. -/
theorem links_of_spot (hs : d.spot p = .ok s) : s.links = 0 :=
  Tree.links_of_follow ht (admissible_of_land (land_of_spot hs)).2

/-- Without links, a spot is where it is. -/
theorem eq_of_place {s' : Spot} (hs : d.spot p = .ok s) (hs' : d.spot q = .ok s')
    (hplace : s.place = s'.place) : s = s' :=
  Spot.mk.injEq .. ▸ ⟨hplace, (links_of_spot ht hs).trans (links_of_spot ht hs').symm⟩

/-- **Without links, names that lead down lead to the place that they say.** -/
theorem place_of_spot_below (hnames : names ≠ []) (hdown : ∀ n ∈ names, n ≠ "." ∧ n ≠ "..")
    (hs : d.spot p = .ok s) {s' : Spot} (hs' : d.spot (p.below names) = .ok s') :
    s'.place = s.place ++ names := by
  obtain ⟨s'', hs'', hf⟩ := exists_spot_of_spot_below hnames hs'
  obtain rfl := Except.ok.inj (hs.symm.trans hs'')
  exact Tree.place_of_follow ht hdown hf

theorem place_of_spot_join (hp : p.LeadsDown) {spot : Spot} (hbase : d.spot base = .ok spot)
    (hs : d.spot (base / p) = .ok s) : s.place = spot.place ++ p.parts := by
  rw [Path.join_eq_below hp.slashes] at hs
  exact place_of_spot_below ht hp.parts_ne_nil hp.parts hbase hs

/-- Without links, the names on the way down are names in the tree. -/
theorem not_mem_of_spot_join {c : Char} (hc : d.tree.Lacks c) (hp : p.LeadsDown)
    (hs : d.spot (base / p) = .ok s) (hnode : d.tree.node? s.place ≠ none) :
    ∀ part ∈ p.parts, c ∉ part := by
  obtain ⟨spot, hbase⟩ := exists_spot_of_spot_join hp hs
  intro part hpart
  refine hc _ hnode part ?_
  rw [place_of_spot_join ht hp hbase hs]
  exact List.mem_append_right _ hpart

/-- **Without links, paths that lead down to the same place are equal.** -/
theorem eq_of_spot_place (hp : p.LeadsDown) (hq : q.LeadsDown) {s' : Spot}
    (hs : d.spot (base / p) = .ok s) (hs' : d.spot (base / q) = .ok s')
    (hplace : s.place = s'.place) : p = q := by
  obtain ⟨spot, hbase⟩ := exists_spot_of_spot_join hp hs
  rw [place_of_spot_join ht hp hbase hs, place_of_spot_join ht hq hbase hs'] at hplace
  exact Path.eq_of_parts_eq (hp.slashes.trans hq.slashes.symm) (List.append_cancel_left hplace)

end Linkless

end Disk

end StyleLinter.Files
