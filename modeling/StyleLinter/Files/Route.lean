import StyleLinter.Files.Refusal
import StyleLinter.Files.Tree

/-!
# Routes through a tree

Following the names of a path through a tree: a single dot stays, double dots go up, and a symbolic
link is replaced by the names of its target, wherever it stands. At most `linkLimit` links are
followed on one route, and that is why following ends although links may form cycles: each step
follows a link, of which there are only so many, or uses up a name.

`follow` says where the route lands: at a place, **with the number of links followed so far**, or at
a name that is missing from an existing directory, where something could be created.
`follow_single` is the step that a walk over a tree takes.
-/

namespace StyleLinter.Files

/-- The most links that are followed on one route. -/
def linkLimit : Nat := 40

/-- The most bytes that a name may have. -/
def nameLimit : Nat := 255

/-- The most bytes that the text of a path may have. -/
def pathLimit : Nat := 4095

/-- A place on a route and the number of links that were followed to get there. -/
structure Spot where
  /-- Where the route is; never at a link. -/
  place : Place
  /-- How many links were followed. -/
  links : Nat
deriving DecidableEq, Repr

/-- Where a route ends. -/
inductive Landing where
  /-- At a file or a directory. -/
  | found (spot : Spot)
  /-- At a name that an existing directory does not have. -/
  | vacant (dir : Place) (name : Text)
deriving DecidableEq, Repr

/-- The names that the target of a link spells. A trailing slash asks for a directory, as a trailing
dot does. -/
def steps (target : Text) : List Text :=
  (Text.pieces '/' target).filter (!·.isEmpty)
    ++ if Text.endsWith target "/" then [['.']] else []

/-- Where the names of a target are counted from. -/
def origin (dir : Place) (target : Text) : Place := if Text.startsWith target "/" then [] else dir

/-- Does the owner get through the directory at this place? -/
def Tree.passage (t : Tree) (dir : Place) : Except Refusal Unit :=
  match t.node? dir with
  | none => .error .notFound
  | some (.directory rights) => if rights.enter then .ok () else .error .denied
  | some _ => .error .notDirectory

/-- Follows the names from a place on. -/
def Tree.follow (t : Tree) (links : Nat) (dir : Place) : List Text → Except Refusal Landing
  | [] => .ok (.found ⟨dir, links⟩)
  | name :: rest =>
    match t.passage dir with
    | .error r => .error r
    | .ok () =>
      if name = "." then t.follow links dir rest
      else if name = ".." then t.follow links dir.dropLast rest
      else if nameLimit < (Utf8.encode name).length then .error .nameTooLong
      else
        match t.node? (dir ++ [name]) with
        | none => if rest = [] then .ok (.vacant dir name) else .error .notFound
        | some (.link target) =>
          if _h : links < linkLimit then
            t.follow (links + 1) (origin dir target) (steps target ++ rest)
          else .error .tooManyLinks
        | some _ => t.follow links (dir ++ [name]) rest
termination_by names => (linkLimit - links, names.length)
decreasing_by
  · exact Prod.Lex.right _ (by simp)
  · exact Prod.Lex.right _ (by simp)
  · exact Prod.Lex.left _ _ (by omega)
  · exact Prod.Lex.right _ (by simp)

/-- Follows the names from a place on to something that is there. -/
def Tree.spot (t : Tree) (links : Nat) (dir : Place) (names : List Text) : Except Refusal Spot :=
  match t.follow links dir names with
  | .ok (.found s) => .ok s
  | .ok (.vacant ..) => .error .notFound
  | .error r => .error r

theorem Tree.links_le_of_follow (t : Tree) {links : Nat} {dir : Place} {names : List Text}
    {s : Spot} (h : t.follow links dir names = .ok (.found s)) : links ≤ s.links := by
  fun_induction Tree.follow t links dir names <;> simp_all <;> grind

/-- A route that follows a link has not used up its links before. -/
theorem Tree.links_lt_of_follow (t : Tree) {links : Nat} {dir : Place} {names : List Text}
    {s : Spot} (h : t.follow links dir names = .ok (.found s)) (hlt : links < s.links) :
    links < linkLimit := by
  fun_induction Tree.follow t links dir names <;> simp_all
  grind

/-- **A name leads one place down, or over a link.** -/
theorem Tree.follow_single (t : Tree) {links : Nat} {dir : Place} {name : Text} {s : Spot}
    (hdot : name ≠ ".") (hdots : name ≠ "..")
    (h : t.follow links dir [name] = .ok (.found s)) :
    links < s.links ∨ s.links = links ∧ s.place = dir ++ [name] ∧ (t.node? s.place).isSome := by
  unfold Tree.follow at h
  split at h
  · simp at h
  · simp only [hdot, ↓reduceIte, hdots] at h
    split at h
    · simp at h
    · split at h
      · simp at h
      · split at h
        · exact .inl (t.links_le_of_follow h)
        · simp at h
      · rename_i hn
        unfold Tree.follow at h
        simp only [Except.ok.injEq, Landing.found.injEq] at h
        subst h
        exact .inr ⟨rfl, rfl, by simp [hn]⟩

end StyleLinter.Files
