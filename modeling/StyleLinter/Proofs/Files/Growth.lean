import StyleLinter.Files.Disk

/-!
# Trees that grow

Writing a file and making directories add to a tree. Making a directory leaves everything as it was
(`Tree.Kept`); writing a file may change the contents of one (`Tree.Within`). All that the proofs
about writing need is that **a route that lands somewhere lands there in every tree that has grown
from it** (`follow_of_within`): routes do not look at the contents of files.

A route that ends at a vacant name lands there, once a file with this name is put at its place
(`follow_of_vacant`).
-/

namespace StyleLinter.Files

/-- A node, the contents of a file left out. -/
def Node.bare : Node → Node
  | .file rights _ => .file rights []
  | n => n

theorem Node.file_ne_link (rights : Rights) (contents : Bytes) (target : Text) :
    Node.file rights contents ≠ .link target := by
  intro h
  cases h

namespace Tree

/-- Does the second tree have what the first one has, but for the contents of files? -/
def Within (t t' : Tree) : Prop :=
  ∀ p n, t.node? p = some n → ∃ n', t'.node? p = some n' ∧ n'.bare = n.bare

/-- Is everything that the first tree has in the second, as it is? -/
def Kept (t t' : Tree) : Prop := ∀ p n, t.node? p = some n → t'.node? p = some n

variable {t t' t'' : Tree}

theorem Kept.refl (t : Tree) : t.Kept t := fun _ _ h ↦ h

theorem Kept.trans (h : t.Kept t') (h' : t'.Kept t'') : t.Kept t'' :=
  fun p n hn ↦ h' p n (h p n hn)

theorem Kept.within (h : t.Kept t') : t.Within t' := fun p n hn ↦ ⟨n, h p n hn, rfl⟩

theorem Within.trans (h : t.Within t') (h' : t'.Within t'') : t.Within t'' := by
  intro p n hn
  obtain ⟨n', hn', he⟩ := h p n hn
  obtain ⟨n'', hn'', he'⟩ := h' p n' hn'
  exact ⟨n'', hn'', he'.trans he⟩

theorem ne_nil_of_node?_eq_none {p : Place} (h : t.node? p = none) : p ≠ [] := by
  rintro rfl
  exact absurd h nofun

/-- **A tree grows where nothing was.** -/
theorem kept_put_vacant {p : Place} (h : t.node? p = none) (n : Node) : t.Kept (t.put p n) := by
  intro q m hm
  have hne : q ≠ p := by
    rintro rfl
    exact absurd (h.symm.trans hm) nofun
  rw [node?_put t p q n (ne_nil_of_node?_eq_none h), if_neg hne]
  exact hm

theorem ne_nil_of_node?_eq_file {p : Place} {rights : Rights} {contents : Bytes}
    (h : t.node? p = some (.file rights contents)) : p ≠ [] := by
  rintro rfl
  exact absurd h nofun

/-- **New contents are growth.** -/
theorem within_put_file {p : Place} {rights : Rights} {old : Bytes}
    (h : t.node? p = some (.file rights old)) (new : Bytes) :
    t.Within (t.put p (.file rights new)) := by
  intro q m hm
  by_cases hq : q = p
  · subst hq
    obtain rfl := Option.some.inj (h.symm.trans hm)
    refine ⟨.file rights new, ?_, rfl⟩
    rw [node?_put t q q _ (ne_nil_of_node?_eq_file h), if_pos rfl]
  · refine ⟨m, ?_, rfl⟩
    rw [node?_put t p q _ (ne_nil_of_node?_eq_file h), if_neg hq]
    exact hm

/-! ### What grown trees agree on -/

theorem Within.directory (h : t.Within t') {p : Place} {rights : Rights}
    (hp : t.node? p = some (.directory rights)) : t'.node? p = some (.directory rights) := by
  obtain ⟨n, hn, he⟩ := h p _ hp
  cases n with
  | directory => exact hn.trans (congrArg some he)
  | file => exact absurd he nofun
  | link => exact absurd he nofun

theorem Within.link (h : t.Within t') {p : Place} {target : Text}
    (hp : t.node? p = some (.link target)) : t'.node? p = some (.link target) := by
  obtain ⟨n, hn, he⟩ := h p _ hp
  cases n with
  | link => exact hn.trans (congrArg some he)
  | file => exact absurd he nofun
  | directory => exact absurd he nofun

theorem Within.ne_none (h : t.Within t') {p : Place} (hp : t.node? p ≠ none) : t'.node? p ≠ none := by
  obtain ⟨n, hn⟩ := Option.ne_none_iff_exists'.mp hp
  obtain ⟨n', hn', -⟩ := h p n hn
  rw [hn']
  exact nofun

theorem Within.file (h : t.Within t') {p : Place} {rights : Rights} {contents : Bytes}
    (hp : t.node? p = some (.file rights contents)) :
    ∃ contents', t'.node? p = some (.file rights contents') := by
  obtain ⟨n, hn, he⟩ := h p _ hp
  cases n with
  | file rights' contents' =>
    obtain ⟨rfl, -⟩ := Node.file.inj he
    exact ⟨contents', hn⟩
  | directory => exact absurd he nofun
  | link => exact absurd he nofun

/-- What is a file where something was has been a file with the same rights. -/
theorem Within.file_of_file (h : t.Within t') {p : Place} {n : Node} (hp : t.node? p = some n)
    {rights : Rights} {contents : Bytes} (hp' : t'.node? p = some (.file rights contents)) :
    ∃ old, n = .file rights old := by
  obtain ⟨n', hn', he⟩ := h p n hp
  obtain rfl := Option.some.inj (hn'.symm.trans hp')
  cases n with
  | file rights' old =>
    obtain ⟨rfl, -⟩ := Node.file.inj he
    exact ⟨old, rfl⟩
  | directory => exact absurd he nofun
  | link => exact absurd he nofun

theorem Within.no_link (h : t.Within t') {p : Place} {n : Node} (hp : t.node? p = some n)
    (hn : ∀ target, n = .link target → False) :
    ∃ n', t'.node? p = some n' ∧ ∀ target, n' ≠ .link target := by
  obtain ⟨n', hn', he⟩ := h p n hp
  refine ⟨n', hn', ?_⟩
  rintro target rfl
  cases n with
  | link target => exact hn target rfl
  | file => exact absurd he nofun
  | directory => exact absurd he nofun

theorem node?_of_passage {dir : Place} (h : t.passage dir = .ok ()) :
    ∃ rights, t.node? dir = some (.directory rights) ∧ rights.enter = true := by
  unfold passage at h
  split at h
  · exact absurd h nofun
  · next rights hn =>
    split at h
    · next henter => exact ⟨rights, hn, henter⟩
    · exact absurd h nofun
  · exact absurd h nofun

theorem passage_of_within (h : t.Within t') {dir : Place} (hp : t.passage dir = .ok ()) :
    t'.passage dir = .ok () := by
  obtain ⟨rights, hn, henter⟩ := node?_of_passage hp
  rw [passage, h.directory hn]
  simp only [henter, if_true]

/-! ### The steps of a route -/

section Steps

variable {links : Nat} {dir : Place} {name : Text} {rest : List Text}

theorem follow_nil : t.follow links dir [] = .ok (.found ⟨dir, links⟩) := by
  rw [follow]

theorem follow_dot (hp : t.passage dir = .ok ()) :
    t.follow links dir (".".toList :: rest) = t.follow links dir rest := by
  rw [follow, hp]
  simp only [if_true]

theorem follow_dots (hp : t.passage dir = .ok ()) :
    t.follow links dir ("..".toList :: rest) = t.follow links dir.dropLast rest := by
  have hne : "..".toList ≠ ".".toList := by decide
  rw [follow, hp]
  simp only [if_neg hne, if_true]

variable (hp : t.passage dir = .ok ()) (hdot : name ≠ ".") (hdots : name ≠ "..")
  (hlen : ¬ nameLimit < (Utf8.encode name).length)

include hp hdot hdots hlen

/-- A link is followed where it leads. -/
theorem follow_link {target : Text} (hn : t.node? (dir ++ [name]) = some (.link target))
    (hlt : links < linkLimit) :
    t.follow links dir (name :: rest) =
      t.follow (links + 1) (origin dir target) (steps target ++ rest) := by
  rw [follow, hp]
  simp only [if_neg hdot, if_neg hdots, if_neg hlen]
  rw [hn]
  exact dif_pos hlt

/-- Any other node is one place further down. -/
theorem follow_down {n : Node} (hn : t.node? (dir ++ [name]) = some n)
    (hlink : ∀ target, n ≠ .link target) :
    t.follow links dir (name :: rest) = t.follow links (dir ++ [name]) rest := by
  rw [follow, hp]
  simp only [if_neg hdot, if_neg hdots, if_neg hlen]
  rw [hn]
  cases n with
  | link target => exact absurd rfl (hlink target)
  | file => rfl
  | directory => rfl

end Steps

/-! ### Routes -/

/-- **A route that lands somewhere lands there in every tree that has grown.** -/
theorem follow_of_within (h : t.Within t') {links : Nat} {dir : Place} {names : List Text} {s : Spot}
    (hf : t.follow links dir names = .ok (.found s)) : t'.follow links dir names = .ok (.found s) := by
  -- along the route in the old tree; in the other cases the route fails or ends at a vacant name
  fun_induction Tree.follow t links dir names with
  | case1 => exact follow_nil.trans hf
  | case2 => cases hf
  | case3 links dir rest hp ih => exact (follow_dot (passage_of_within h hp)).trans (ih hf)
  | case4 links dir rest hp _ ih => exact (follow_dots (passage_of_within h hp)).trans (ih hf)
  | case5 => cases hf
  | case6 => cases hf
  | case7 => cases hf
  | case8 links dir name rest hp hdot hdots hlen target hn hlt ih =>
    rw [follow_link (passage_of_within h hp) hdot hdots hlen (h.link hn) hlt]
    exact ih hf
  | case9 => cases hf
  | case10 links dir name rest hp hdot hdots hlen n hlink hn ih =>
    obtain ⟨n', hn', hlink'⟩ := h.no_link hn hlink
    rw [follow_down (passage_of_within h hp) hdot hdots hlen hn' hlink']
    exact ih hf

/-- **A route that ends at a vacant name** ends in an existing directory, and it lands at the name
in every tree that has grown by a file there. -/
theorem follow_of_vacant (h : t.Within t') {links : Nat} {dir : Place} {names : List Text}
    {place : Place} {last : Text} (hf : t.follow links dir names = .ok (.vacant place last)) :
    t.node? (place ++ [last]) = none ∧
      ∀ rights contents, t'.node? (place ++ [last]) = some (.file rights contents) →
        ∃ s, t'.follow links dir names = .ok (.found s) ∧ s.place = place ++ [last] := by
  fun_induction Tree.follow t links dir names with
  | case1 => cases hf
  | case2 => cases hf
  | case3 links dir rest hp ih =>
    rw [follow_dot (passage_of_within h hp)]
    exact ih hf
  | case4 links dir rest hp _ ih =>
    rw [follow_dots (passage_of_within h hp)]
    exact ih hf
  | case5 => cases hf
  | case6 links dir name hp hdot hdots hlen hn =>
    obtain ⟨rfl, rfl⟩ := Landing.vacant.inj (Except.ok.inj hf)
    -- the last step, which goes down to the new file instead of ending
    refine ⟨hn, fun rights contents hn' ↦ ⟨⟨dir ++ [name], links⟩, ?_, rfl⟩⟩
    rw [follow_down (passage_of_within h hp) hdot hdots hlen hn' (Node.file_ne_link _ _), follow_nil]
  | case7 => cases hf
  | case8 links dir name rest hp hdot hdots hlen target hn hlt ih =>
    rw [follow_link (passage_of_within h hp) hdot hdots hlen (h.link hn) hlt]
    exact ih hf
  | case9 => cases hf
  | case10 links dir name rest hp hdot hdots hlen n hlink hn ih =>
    obtain ⟨n', hn', hlink'⟩ := h.no_link hn hlink
    rw [follow_down (passage_of_within h hp) hdot hdots hlen hn' hlink']
    exact ih hf

end Tree

end StyleLinter.Files
