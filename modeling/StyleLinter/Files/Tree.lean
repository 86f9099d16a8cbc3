import StyleLinter.Text.Utf8

/-!
# Trees of files

A tree says what is at each **place**, a place being the list of names from the root down. There is
a file with its contents, a directory, or a symbolic link with its target; files and directories
have the rights of their owner, who is the one that works on the tree.

The view of a tree is `node?`. `put` changes it at one place and nowhere else (`node?_put`), and
`remove` clears a place and all below it. That a directory has a name means that there is a node at
the place one name further down (`names`).
-/

namespace StyleLinter.Files

/-- The names from the root of the file system down. -/
abbrev Place := List Text

/-- What the owner may do with a file or a directory. -/
structure Rights where
  /-- Read a file, list a directory. -/
  read : Bool := true
  /-- Write a file, change the names in a directory. -/
  write : Bool := true
  /-- Go through a directory. -/
  enter : Bool := true
deriving DecidableEq, Repr

/-- What is at a place. -/
inductive Node where
  /-- A file with its contents. -/
  | file (rights : Rights) (contents : Bytes)
  /-- A directory. What it holds is said by the places below it. -/
  | directory (rights : Rights)
  /-- A symbolic link to the path that a text spells. -/
  | link (target : Text)
deriving DecidableEq, Repr

/-- A tree of files: at most one node at each place. The root itself is always a directory. -/
structure Tree where
  /-- The nodes with their places. -/
  nodes : List (Place × Node)
  /-- No place occurs twice. -/
  nodup : (nodes.map (·.1)).Nodup

namespace Tree

/-- The tree that has the root only. -/
def empty : Tree := ⟨[], List.nodup_nil⟩

/-- The node at a place. -/
def node? (t : Tree) (p : Place) : Option Node :=
  if p = [] then some (.directory {}) else (t.nodes.find? (·.1 = p)).map (·.2)

/-- The tree with a node put at a place, in place of the one that was there. -/
def put (t : Tree) (p : Place) (n : Node) : Tree where
  nodes := t.nodes.filter (·.1 ≠ p) ++ [(p, n)]
  nodup := by
    rw [List.map_append, List.nodup_append]
    refine ⟨?_, by simp, ?_⟩
    · exact (List.filter_sublist.map _).nodup t.nodup
    · simp only [List.mem_map, List.mem_filter, decide_not, Bool.not_eq_eq_eq_not, Bool.not_true,
        decide_eq_false_iff_not, List.map_cons, List.map_nil, List.mem_cons, List.not_mem_nil,
        or_false]
      rintro a ⟨e, ⟨-, he⟩, rfl⟩ b rfl
      exact he

/-- The tree without a place and everything below it. -/
def remove (t : Tree) (p : Place) : Tree where
  nodes := t.nodes.filter fun e ↦ !p.isPrefixOf e.1
  nodup := (List.filter_sublist.map _).nodup t.nodup

theorem find?_filter_ne {l : List (Place × Node)} {p q : Place} (h : q ≠ p) :
    (l.filter (·.1 ≠ p)).find? (·.1 = q) = l.find? (·.1 = q) := by
  induction l with
  | nil => rfl
  | cons e l ih =>
    by_cases hp : e.1 = p
    · have hq : ¬ e.1 = q := fun he ↦ h (he.symm.trans hp)
      simp only [List.filter_cons, hp, ne_eq, not_true_eq_false, decide_false, Bool.false_eq_true,
        ↓reduceIte, List.find?_cons, ih]
      simp [Ne.symm h]
    · by_cases hq : e.1 = q
      · simp [hq, h]
      · simp only [List.filter_cons, hp, ne_eq, not_false_eq_true, decide_true, ↓reduceIte,
          List.find?_cons, hq, decide_false, ih]

/-- **A change shows at its place and nowhere else.** -/
theorem node?_put (t : Tree) (p q : Place) (n : Node) (hp : p ≠ []) :
    (t.put p n).node? q = if q = p then some n else t.node? q := by
  by_cases hq : q = []
  · simp [node?, hq, hp.symm]
  · by_cases h : q = p
    · subst h
      have : ((t.nodes.filter (·.1 ≠ q)).find? (·.1 = q)) = none := by
        simp [List.find?_eq_none]
      simp only [node?, hq, ↓reduceIte, put, List.find?_append, this]
      simp
    · simp only [node?, hq, ↓reduceIte, put, List.find?_append, find?_filter_ne h, h]
      cases t.nodes.find? (·.1 = q) <;> simp [Ne.symm h]

/-- Can something have this name? A dot, or two, says where to go and names nothing, and a slash
stands between two names. -/
def isName (name : Text) : Bool :=
  !name.isEmpty && name != "." && name != ".." && !name.contains '/'

theorem isName_iff {name : Text} :
    isName name = true ↔ name ≠ [] ∧ name ≠ "." ∧ name ≠ ".." ∧ '/' ∉ name := by
  simp [isName, and_assoc]

/-- The names in a directory, in increasing order. -/
def names (t : Tree) (dir : Place) : List Text :=
  ((t.nodes.filterMap fun e ↦ if e.1.dropLast = dir then e.1.getLast? else none).filter
    isName).mergeSort Text.le

theorem isName_of_mem_names {t : Tree} {dir : Place} {name : Text} (h : name ∈ t.names dir) :
    isName name = true :=
  (List.mem_filter.mp (List.mem_mergeSort.mp h)).2

/-- A bound on the number of names on the way to any node. -/
def depth (t : Tree) : Nat := (t.nodes.map (·.1.length)).foldr max 0

theorem length_le_depth {t : Tree} {p : Place} {n : Node} (h : t.node? p = some n) :
    p.length ≤ t.depth := by
  by_cases hp : p = []
  · simp [hp]
  · simp only [node?, hp, ↓reduceIte, Option.map_eq_some_iff] at h
    obtain ⟨e, he, -⟩ := h
    have hm := List.mem_of_find?_eq_some he
    have hk : e.1 = p := by simpa using List.find?_some he
    unfold depth
    generalize t.nodes = l at hm
    induction l with
    | nil => simp at hm
    | cons a l ih =>
      rcases List.mem_cons.mp hm with rfl | hm
      · simp only [List.map_cons, List.foldr_cons, hk]
        exact Nat.le_max_left ..
      · exact Nat.le_trans (ih hm) (Nat.le_max_right ..)

end Tree

end StyleLinter.Files
