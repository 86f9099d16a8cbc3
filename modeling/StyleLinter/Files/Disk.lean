import StyleLinter.Files.Route
import StyleLinter.Path

/-!
# Reading and writing files

A disk is a tree together with the place that relative paths start from. The operations here are
the ones that a program has: to ask what a path leads to, to list a directory, to read and to write
a file, to make a directory. Each checks the rights that it needs and the limits on names and paths,
in the order in which the file system does.

An operation fails with an **obstacle**. Asking what is there is more lenient than the rest: a path
that leads nowhere is no obstacle to asking.
-/

namespace StyleLinter.Files

/-- Why an operation on a path fails. -/
inductive Obstacle where
  /-- The file system refuses. -/
  | refused (refusal : Refusal)
  /-- The path holds a NUL character, and no such path can be passed on. -/
  | nul
deriving DecidableEq, Repr

/-- A tree and the place where relative paths start. -/
structure Disk where
  /-- The files. -/
  tree : Tree
  /-- The current directory. -/
  current : Place

/-- What a path can lead to. -/
inductive Kind where
  /-- A regular file. -/
  | file
  /-- A directory. -/
  | directory
deriving DecidableEq, Repr

namespace Disk

/-! ### What is there -/

/-- Where the names of a path are counted from. -/
def start (d : Disk) (p : Path) : Place := if p.isAbsolute then [] else d.current

/-- Can the text of the path be passed to the file system? -/
def admissible (p : Path) : Except Obstacle Unit :=
  if p.toText.contains '\x00' then .error .nul
  else if pathLimit < (Utf8.encode p).length then .error (.refused .nameTooLong)
  else .ok ()

/-- The names that a path is followed along. The current directory is a step to where one is, which
the rights have to allow like any other. -/
def route (p : Path) : List Text := if p = Path.here then [['.']] else p.parts

/-- Where a path leads. -/
def land (d : Disk) (p : Path) : Except Obstacle Landing :=
  match admissible p with
  | .error o => .error o
  | .ok () => (d.tree.follow 0 (d.start p) (route p)).mapError .refused

/-- The spot that a path leads to. -/
def spot (d : Disk) (p : Path) : Except Obstacle Spot :=
  match d.land p with
  | .error o => .error o
  | .ok (.found s) => .ok s
  | .ok (.vacant ..) => .error (.refused .notFound)

/-- The kind of the node at a place. -/
def kindAt (d : Disk) (p : Place) : Option Kind :=
  match d.tree.node? p with
  | some (.file ..) => some .file
  | some (.directory _) => some .directory
  | _ => none

/-- What a path leads to. That it leads nowhere is an answer, not an obstacle. -/
def kind? (d : Disk) (p : Path) : Except Obstacle (Option Kind) :=
  match d.spot p with
  | .ok s => .ok (d.kindAt s.place)
  | .error .nul => .ok none
  | .error (.refused r) => if r.meansNothingThere then .ok none else .error (.refused r)

/-- Does the path lead to something? -/
def exists? (d : Disk) (p : Path) : Except Obstacle Bool := (d.kind? p).map (·.isSome)

/-- Does the path lead to a directory? -/
def isDirectory? (d : Disk) (p : Path) : Except Obstacle Bool :=
  (d.kind? p).map (· == some .directory)

/-- Does the path lead to a regular file? -/
def isFile? (d : Disk) (p : Path) : Except Obstacle Bool := (d.kind? p).map (· == some .file)

/-! ### Reading -/

/-- The contents of the file that a path leads to. -/
def read (d : Disk) (p : Path) : Except Obstacle Bytes :=
  match d.spot p with
  | .error o => .error o
  | .ok s =>
    match d.tree.node? s.place with
    | some (.file rights contents) =>
      if rights.read then .ok contents else .error (.refused .denied)
    | some (.directory rights) => .error (.refused (if rights.read then .isDirectory else .denied))
    | _ => .error (.refused .notFound)

/-- The names in the directory at a place, in increasing order. -/
def namesAt (d : Disk) (p : Place) : Except Obstacle (List Text) :=
  match d.tree.node? p with
  | some (.directory rights) =>
    if rights.read then .ok (d.tree.names p) else .error (.refused .denied)
  | some _ => .error (.refused .notDirectory)
  | none => .error (.refused .notFound)

theorem isName_of_namesAt {d : Disk} {p : Place} {names : List Text} {name : Text}
    (h : d.namesAt p = .ok names) (hm : name ∈ names) : Tree.isName name = true := by
  unfold namesAt at h
  split at h
  · split at h
    · simp only [Except.ok.injEq] at h
      exact Tree.isName_of_mem_names (h ▸ hm)
    · simp at h
  · simp at h
  · simp at h

/-! ### Writing -/

/-- The disk with another tree. -/
def withTree (d : Disk) (t : Tree) : Disk := { d with tree := t }

/-- Writes a file. It is created, where the path leads to a name that is missing from its directory,
and otherwise its contents are replaced. -/
def write (d : Disk) (p : Path) (contents : Bytes) : Except Obstacle Disk :=
  match d.land p with
  | .error o => .error o
  | .ok (.found s) =>
    match d.tree.node? s.place with
    | some (.file rights _) =>
      if rights.write then .ok (d.withTree (d.tree.put s.place (.file rights contents)))
      else .error (.refused .denied)
    | _ => .error (.refused .isDirectory)
  | .ok (.vacant dir name) =>
    match d.tree.node? dir with
    | some (.directory rights) =>
      if rights.write then .ok (d.withTree (d.tree.put (dir ++ [name]) (.file {} contents)))
      else .error (.refused .denied)
    | _ => .error (.refused .notDirectory)

/-- Makes a directory in one that is there. -/
def makeDirectory (d : Disk) (p : Path) : Except Obstacle Disk :=
  match admissible p with
  | .error o => .error o
  | .ok () =>
    match p.parts.getLast? with
    | none => .error (.refused .alreadyExists)
    | some name =>
      match (d.tree.spot 0 (d.start p) p.parts.dropLast) with
      | .error r => .error (.refused r)
      | .ok s =>
        match d.tree.passage s.place with
        | .error r => .error (.refused r)
        | .ok () =>
          if name = ".." then .error (.refused .alreadyExists)
          else if nameLimit < (Utf8.encode name).length then .error (.refused .nameTooLong)
          else
            match d.tree.node? s.place, d.tree.node? (s.place ++ [name]) with
            | some (.directory rights), none =>
              if rights.write then .ok (d.withTree (d.tree.put (s.place ++ [name]) (.directory {})))
              else .error (.refused .denied)
            | _, _ => .error (.refused .alreadyExists)

/-- What becomes of making a directory that need not be new: a path that leads to a directory
already is no failure. -/
def directoryOr (d : Disk) (p : Path) (o : Obstacle) : Disk × Except (Obstacle × Path) Unit :=
  match o with
  | .nul => (d, .error (o, p))
  | .refused _ =>
    match d.isDirectory? p with
    | .ok true => (d, .ok ())
    | .ok false => (d, .error (o, p))
    | .error o' => (d, .error (o', p))

/-- Makes a directory and the directories above it that are missing. The directories that were made
stay when a later one fails. -/
def makeDirectories (d : Disk) (p : Path) : Disk × Except (Obstacle × Path) Unit :=
  match d.makeDirectory p with
  | .ok d' => (d', .ok ())
  | .error (.refused .notFound) =>
    if _h : p.parts = [] then (d, .error (.refused .notFound, p))
    else
      match makeDirectories d p.parent with
      | (d', .error e) => (d', .error e)
      | (d', .ok ()) =>
        match d'.makeDirectory p with
        | .ok d'' => (d'', .ok ())
        | .error (.refused .notFound) => (d', .error (.refused .notFound, p))
        | .error o => d'.directoryOr p o
  | .error o => d.directoryOr p o
termination_by p.parts.length
decreasing_by
  simp only [Path.parent, List.length_dropLast]
  have := List.length_pos_iff.mpr _h
  omega

end Disk

end StyleLinter.Files
