import StyleLinter.Proofs.Discovery.Agreement

/-!
# How deep the calls of a walk are nested

A walk asks about paths and remembers nothing else. Where links form cycles, the paths grow from
call to call, and nothing in the tree of files gets smaller. What does get smaller is **the number
of links that a route may still follow, and then the number of names that it can still go down**
(`toGo_lt_of_lookUp`): a link uses one of `linkLimit`, and without one the walk is a place further
down in a tree of finite depth.

`walkCalls` is the walk with a bound on the nesting of its calls, and without a value if the calls
would have to be nested deeper. With the bound `nestingLimit`, which depends on the limit on links
and on the depth of the tree only, **there always is a value, and it is that of the walk**
(`walkCalls_eq`, `files_end_within_nestingLimit`).
-/

namespace StyleLinter.Discovery

open Files

/-! ### Calls with a bound -/

/-- What a call comes to, if its calls are not nested too deep. -/
abbrev Nested (α : Type) := ExceptT Failure Option α

/-- What is settled without another call. -/
def Nested.settled {α : Type} (x : Except Failure α) : Nested α := ExceptT.mk (some x)

namespace Nested

variable {α β : Type}

theorem settled_bind (x : Except Failure α) (f : α → Except Failure β) :
    (settled x >>= fun a ↦ settled (f a)) = settled (x >>= f) := by
  cases x <;> rfl

/-- **A traversal is settled if its steps are.** -/
theorem mapM_settled {f : α → Nested β} {g : α → Except Failure β} {xs : List α}
    (h : ∀ x ∈ xs, f x = settled (g x)) : xs.mapM f = settled (xs.mapM g) := by
  induction xs with
  | nil => rfl
  | cons x xs ih =>
    rw [List.mapM_cons, List.mapM_cons, h x List.mem_cons_self,
      ih fun y hy ↦ h y (List.mem_cons_of_mem _ hy), ← settled_bind]
    congr 1
    funext y
    exact settled_bind (xs.mapM g) fun ys ↦ .ok (y :: ys)

end Nested

/-- The names in the directory that a path leads to. -/
def listing (d : Disk) (directory : Path) : Except Failure (List Text) :=
  ((d.spot directory).bind fun s ↦ d.namesAt s.place).mapError (listingObstacle directory)

/-- The answer to a question about a path. -/
def answer (path : Path) (x : Except Obstacle Bool) : Except Failure Bool :=
  x.mapError (.ofObstacle path)

/-- What is found under one name of a directory, where `call` walks the directory that the name may
lead to. -/
def visitCalls (d : Disk) (extension : Text) (call : Path → Path → Nested (List Path))
    (directory relative : Path) (name : Text) : Nested (List Path) := do
  let path := directory.child name
  if ← Nested.settled (answer path (d.isDirectory? path)) then call path (relative.child name)
  else if ← Nested.settled (answer path (d.isFile? path)) then
    pure (if hasExtension extension name then [relative.child name] else [])
  else pure []

/-- The files with an extension below a directory, by calls that are nested at most `depth` deep.
Each call asks about the paths that it is given and knows nothing of the way to them. -/
def walkCalls (d : Disk) (extension : Text) : ℕ → Path → Path → Nested (List Path)
  | 0, _, _ => ExceptT.mk none
  | depth + 1, directory, relative => do
    let names ← Nested.settled (listing d directory)
    let found ← names.mapM (visitCalls d extension (walkCalls d extension depth) directory relative)
    pure found.flatten

/-- The files with an extension below a root, by calls that are nested at most `depth` deep. -/
def walkRootCalls (host : Host) (base root : Path) (extension : Text) (depth : ℕ) :
    Nested (List Path) := do
  let directory := base / root
  if ← Nested.settled (answer directory (host.disk.isDirectory? directory)) then
    walkCalls host.disk extension depth directory root
  else Nested.settled (.error (.discovery directory .notDirectory))

/-- The source files of a root, found by calls that are nested at most `depth` deep. -/
def Search.filesByCalls (s : Search) (host : Host) (root : Path) (depth : ℕ) :
    Nested (List Path) := do
  let _ ← Nested.settled (rootText root)
  let candidates ← walkRootCalls host s.base root s.extension depth
  let kept ← Nested.settled (candidates.mapM fun p ↦ (s.keep host root p).outcome)
  pure (kept.flatten.mergeSort fun p q ↦ Text.le p.toText q.toText)

/-! ### The bound -/

/-- How deep calls can be nested where so many links are followed and the tree is so deep. -/
def nestingLimit (links depth : ℕ) : ℕ := (links + 1) * (depth + 1)

/-- How many calls a walk can still nest from a spot on. -/
def toGo (d : Disk) (s : Spot) : ℕ :=
  (linkLimit - s.links) * (d.tree.depth + 1) + (d.tree.depth - s.place.length)

variable {d : Disk} {extension name : Text} {directory relative : Path} {spot s : Spot} {depth : ℕ}

theorem toGo_lt_nestingLimit (d : Disk) (s : Spot) :
    toGo d s < nestingLimit linkLimit d.tree.depth := by
  have hlinks : (linkLimit - s.links) * (d.tree.depth + 1) ≤ linkLimit * (d.tree.depth + 1) :=
    Nat.mul_le_mul_right _ (Nat.sub_le _ _)
  rw [toGo, nestingLimit, Nat.add_one_mul]
  omega

/-- **Each call is closer to the end**: it has a link less to follow, or a name less to go down. -/
theorem toGo_lt_of_lookUp (hname : Tree.isName name = true)
    (h : lookUp d spot (directory.child name) name = .ok (.directory s)) :
    toGo d s < toGo d spot := by
  rcases Prod.lex_def.mp (closer_of_lookUp hname h) with hlinks | ⟨hlinks, hplace⟩
  · dsimp only at hlinks
    have hmul : (linkLimit - s.links + 1) * (d.tree.depth + 1) ≤
        (linkLimit - spot.links) * (d.tree.depth + 1) := Nat.mul_le_mul_right _ hlinks
    rw [Nat.add_one_mul] at hmul
    rw [toGo, toGo]
    omega
  · dsimp only at hlinks hplace
    rw [toGo, toGo, hlinks]
    omega

/-! ### Calls and walks -/

theorem answer_isDirectory? (hs : d.spot directory = .ok spot) (name : Text) :
    answer (directory.child name) (d.isDirectory? (directory.child name)) =
      ((lookUp d spot (directory.child name) name).map fun i ↦ i.kind == some .directory).mapError
        (.ofObstacle (directory.child name)) := by
  rw [answer, Disk.isDirectory?, kind?_child hs, map_map]

theorem answer_isFile? (hs : d.spot directory = .ok spot) (name : Text) :
    answer (directory.child name) (d.isFile? (directory.child name)) =
      ((lookUp d spot (directory.child name) name).map fun i ↦ i.kind == some .file).mapError
        (.ofObstacle (directory.child name)) := by
  rw [answer, Disk.isFile?, kind?_child hs, map_map]

/-- **A call for a name is a visit**, if it is where the name leads to a directory. -/
theorem visitCalls_eq (hs : d.spot directory = .ok spot) {call : Path → Path → Nested (List Path)}
    (hcall : ∀ s, lookUp d spot (directory.child name) name = .ok (.directory s) →
      call (directory.child name) (relative.child name) =
        Nested.settled (walk d extension (directory.child name) (relative.child name) s)) :
    visitCalls d extension call directory relative name =
      Nested.settled (visit d extension directory relative spot name) := by
  rw [visitCalls, answer_isDirectory? hs, answer_isFile? hs, visit]
  cases hlook : lookUp d spot (directory.child name) name with
  | error o => rfl
  | ok item =>
    cases item with
    | file => rfl
    | nothing => rfl
    | directory s => exact hcall s hlook

/-- **Calls that may be nested deep enough come to what the walk comes to.** -/
theorem walkCalls_eq (hs : d.spot directory = .ok spot) (h : toGo d spot < depth) :
    walkCalls d extension depth directory relative =
      Nested.settled (walk d extension directory relative spot) := by
  induction depth generalizing directory relative spot with
  | zero => exact absurd h (Nat.not_lt_zero _)
  | succ depth ih =>
    have hlisting : listing d directory =
        (d.namesAt spot.place).mapError (listingObstacle directory) := by
      rw [listing, hs]
      rfl
    rw [walkCalls, walk_eq, hlisting]
    cases hn : d.namesAt spot.place with
    | error o => rfl
    | ok names =>
      have hvisit : names.mapM
          (visitCalls d extension (walkCalls d extension depth) directory relative) =
            Nested.settled (names.mapM (visit d extension directory relative spot)) := by
        refine Nested.mapM_settled fun name hname ↦ visitCalls_eq hs fun s hlook ↦ ?_
        -- the directory that the name leads to is closer to the end
        have hcloser := toGo_lt_of_lookUp (d.isName_of_namesAt hn hname) hlook
        exact ih (spot_of_lookUp hs hlook).1 (by omega)
      refine (congrArg (· >>= fun found ↦ pure found.flatten) hvisit).trans ?_
      dsimp only
      cases names.mapM (visit d extension directory relative spot) <;> rfl

/-- Calls for a directory that is not there, or cannot be listed, end as well. -/
theorem exists_walkCalls (d : Disk) (extension : Text) (directory relative : Path)
    (h : nestingLimit linkLimit d.tree.depth ≤ depth) :
    ∃ outcome, (walkCalls d extension depth directory relative).run = some outcome := by
  cases hs : d.spot directory with
  | ok spot =>
    exact ⟨_, congrArg ExceptT.run
      (walkCalls_eq hs (Nat.lt_of_lt_of_le (toGo_lt_nestingLimit d spot) h))⟩
  | error o =>
    have hpos : 0 < nestingLimit linkLimit d.tree.depth :=
      Nat.mul_pos (Nat.succ_pos _) (Nat.succ_pos _)
    obtain ⟨n, rfl⟩ := Nat.exists_eq_add_one.mpr (Nat.lt_of_lt_of_le hpos h)
    refine ⟨.error (listingObstacle directory o), ?_⟩
    rw [walkCalls, listing, hs]
    rfl

theorem walkRootCalls_eq {host : Host} {base root : Path}
    (h : nestingLimit linkLimit host.disk.tree.depth ≤ depth) :
    walkRootCalls host base root extension depth =
      Nested.settled (walkRoot host base root extension) := by
  unfold walkRootCalls walkRoot
  dsimp only
  cases hdirectory : host.disk.isDirectory? (base / root) with
  | error o => rfl
  | ok b =>
    cases b with
    | false => rfl
    | true =>
      obtain ⟨s, hs, -⟩ := Disk.isDirectory?_eq_true_iff.mp hdirectory
      rw [hs]
      exact walkCalls_eq hs (Nat.lt_of_lt_of_le (toGo_lt_nestingLimit _ s) h)

/-- **A search that walks always ends**, well or with a failure. Whatever links are in the tree, the
calls of the walk are nested no deeper than the limit on links and the depth of the tree allow. -/
theorem Search.files_end_within_nestingLimit (s : Search) (host : Host) (root : Path) (depth : ℕ)
    (h : nestingLimit linkLimit host.disk.tree.depth ≤ depth) :
    (∀ directory relative, ∃ outcome,
      (walkCalls host.disk s.extension depth directory relative).run = some outcome) ∧
    (s.byWalk.filesByCalls host root depth).run = some (s.byWalk.files host root).outcome := by
  refine ⟨fun directory relative ↦ exists_walkCalls _ _ directory relative h, ?_⟩
  have hcandidates : (s.byWalk.candidates host root).outcome =
      walkRoot host s.byWalk.base root s.byWalk.extension := outcome_candidates_of_walk rfl
  have hfiles : (s.byWalk.files host root).outcome = rootText root >>= fun _ ↦
      walkRoot host s.byWalk.base root s.byWalk.extension >>= fun candidates ↦
        candidates.mapM (fun p ↦ (s.byWalk.keep host root p).outcome) >>= fun kept ↦
          .ok (kept.flatten.mergeSort fun p q ↦ Text.le p.toText q.toText) := by
    rw [Search.files, Attempt.outcome_bind]
    refine congrArg (rootText root >>= ·) (funext fun text ↦ ?_)
    rw [Attempt.outcome_bind, hcandidates]
    refine congrArg (walkRoot _ _ _ _ >>= ·) (funext fun candidates ↦ ?_)
    rw [Attempt.outcome_bind, Attempt.outcome_mapM]
    rfl
  have hcalls : s.byWalk.filesByCalls host root depth = Nested.settled (rootText root) >>= fun _ ↦
      Nested.settled (walkRoot host s.byWalk.base root s.byWalk.extension) >>= fun candidates ↦
        Nested.settled (candidates.mapM fun p ↦ (s.byWalk.keep host root p).outcome) >>= fun kept ↦
          Nested.settled (.ok (kept.flatten.mergeSort fun p q ↦ Text.le p.toText q.toText)) := by
    rw [Search.filesByCalls, walkRootCalls_eq h]
    rfl
  simp only [Nested.settled_bind] at hcalls
  rw [hcalls, hfiles]
  rfl

/-! ### Links that form cycles -/

/-- A workspace with a directory that has a file and two links, each of which leads to the directory
itself. -/
def cyclicHost : Host where
  disk :=
    { tree := (((Tree.empty.put ["A"] (.directory {})).put ["A", "X.lean"] (.file {} [])).put
        ["A", "again"] (.link ".")).put ["A", "once"] (.link "../A")
      current := [] }
  git := none

/-- A search in the workspace. -/
def cyclicSearch : Search where
  base := Path.here

/-- **A walk through two cycles ends.** Links can be followed 40 times, and the tree is two names
deep. -/
theorem Search.files_end_within_nestingLimit_cyclic :
    nestingLimit linkLimit cyclicHost.disk.tree.depth = 123 ∧
    cyclicHost.disk.isDirectory? ⟨0, ["A", "again", "once", "again"]⟩ = .ok true ∧
    (cyclicSearch.byWalk.filesByCalls cyclicHost ⟨0, ["A"]⟩ 123).run =
      some (cyclicSearch.byWalk.files cyclicHost ⟨0, ["A"]⟩).outcome :=
  have hlimit : nestingLimit linkLimit cyclicHost.disk.tree.depth = 123 := by decide
  ⟨hlimit, by cbv, (Search.files_end_within_nestingLimit cyclicSearch cyclicHost ⟨0, ["A"]⟩ 123
    (Nat.le_of_eq hlimit)).2⟩

end StyleLinter.Discovery
