import StyleLinter.Host

/-!
# Walking a directory

All files below a directory, in the order of their names, directories being walked where they come
in this order. Links are followed, also where they lead to a directory, and **a walk ends although
links may form cycles**: a step into a directory follows a link, and no route follows more than
`linkLimit` of them, or goes one place down, and no place is deeper than the tree.
-/

namespace StyleLinter.Discovery

open Files

/-- What a name in a directory leads to. -/
inductive Item where
  /-- A directory, at the end of a route. -/
  | directory (spot : Spot)
  /-- A regular file. -/
  | file
  /-- Nothing. -/
  | nothing
deriving DecidableEq, Repr

/-- What a name in the directory at a spot leads to. `path` spells the whole way. -/
def lookUp (d : Disk) (spot : Spot) (path : Path) (name : Text) : Except Obstacle Item :=
  match Disk.admissible path with
  | .error .nul => .ok .nothing
  | .error o => .error o
  | .ok () =>
    match d.tree.follow spot.links spot.place [name] with
    | .ok (.vacant ..) => .ok .nothing
    | .error r => if r.meansNothingThere then .ok .nothing else .error (.refused r)
    | .ok (.found s) =>
      match d.kindAt s.place with
      | some .directory => .ok (.directory s)
      | some .file => .ok .file
      | none => .ok .nothing

theorem follow_of_lookUp {d : Disk} {spot s : Spot} {path : Path} {name : Text}
    (h : lookUp d spot path name = .ok (.directory s)) :
    d.tree.follow spot.links spot.place [name] = .ok (.found s) := by
  unfold lookUp at h
  split at h
  · simp at h
  · simp at h
  · split at h
    · simp at h
    · split at h <;> simp at h
    · rename_i s' hs
      split at h
      · simp only [Except.ok.injEq, Item.directory.injEq] at h
        rw [hs, h]
      · simp at h
      · simp at h

/-- Every step of a walk comes closer to its end. -/
theorem closer_of_lookUp {d : Disk} {spot s : Spot} {path : Path} {name : Text}
    (hn : Tree.isName name = true) (h : lookUp d spot path name = .ok (.directory s)) :
    Prod.Lex (· < ·) (· < ·) (linkLimit - s.links, d.tree.depth - s.place.length)
      (linkLimit - spot.links, d.tree.depth - spot.place.length) := by
  have hf := follow_of_lookUp h
  obtain ⟨-, hdot, hdots, -⟩ := Tree.isName_iff.mp hn
  rcases d.tree.follow_single hdot hdots hf with hlt | ⟨hl, hp, hs⟩
  · have := d.tree.links_lt_of_follow hf hlt
    exact Prod.Lex.left _ _ (by omega)
  · obtain ⟨n, hn⟩ := Option.isSome_iff_exists.mp hs
    have := Tree.length_le_depth hn
    rw [hl]
    apply Prod.Lex.right
    rw [hp] at this ⊢
    simp only [List.length_append, List.length_cons, List.length_nil] at this ⊢
    omega

/-- The failure of listing a directory. -/
def listingObstacle (directory : Path) : Obstacle → Failure
  | .refused .denied => .discovery directory .denied
  | .refused r => .discovery directory (.refused r)
  | .nul => .invalid .nulInPath

/-- Does the name have the extension, and something before it? -/
def hasExtension (extension name : Text) : Bool :=
  Text.endsWith name extension && name != extension

/-- The files with an extension below the directory at a spot. `directory` spells the way to it, and
`relative` the way from the workspace, which the result is counted from. -/
def walk (d : Disk) (extension : Text) (directory relative : Path) (spot : Spot) :
    Except Failure (List Path) :=
  match _hn : d.namesAt spot.place with
  | .error o => .error (listingObstacle directory o)
  | .ok names =>
    Except.map List.flatten <| names.attach.mapM fun (⟨name, _hm⟩ : Subtype (· ∈ names)) ↦
      match _hl : lookUp d spot (directory.child name) name with
      | .error o => .error (.ofObstacle (directory.child name) o)
      | .ok (.directory s) =>
        walk d extension (directory.child name) (relative.child name) s
      | .ok .file => .ok (if hasExtension extension name then [relative.child name] else [])
      | .ok .nothing => .ok []
termination_by (linkLimit - spot.links, d.tree.depth - spot.place.length)
decreasing_by
  exact closer_of_lookUp (d.isName_of_namesAt _hn _hm) _hl

/-- The files with an extension below a root. -/
def walkRoot (host : Host) (base root : Path) (extension : Text) : Except Failure (List Path) :=
  let directory := base / root
  match host.disk.isDirectory? directory with
  | .error o => .error (.ofObstacle directory o)
  | .ok false => .error (.discovery directory .notDirectory)
  | .ok true =>
    match host.disk.spot directory with
    | .error o => .error (.ofObstacle directory o)
    | .ok s => walk host.disk extension directory root s

end StyleLinter.Discovery
