import StyleLinter.CommandLine.Run

/-!
# The program

The program looks at the files that a command line is about, runs the command line on what it saw,
writes the files that the run changed, and prints what there is to print.

What a command line is about are the build files of the workspace, the exception list and the roots
with their aggregators. A symbolic link is taken for a link to the place that it finally leads to.
No other program can be run from here, so version control counts as not installed.
-/

namespace StyleLinter.Program

open Files

/-! ### Looking -/

/-- What was seen of the disk. -/
structure Seen where
  /-- What is at the places that were looked at. -/
  tree : Tree := .empty
  /-- The directories that were listed. -/
  listed : List Place := []

/-- The text of a place. -/
def placeText (p : Place) : String := String.ofList (Path.toText ⟨1, p⟩)

/-- The directory entry at a place, from the root on. -/
def entry (p : Place) : IO.FS.DirEntry := ⟨"", String.ofList (Text.joinWith "/" p)⟩

/-- What was seen with one more node. -/
def Seen.add (s : Seen) (p : Place) (n : Node) : Seen :=
  if (s.tree.node? p).isSome then s else { s with tree := s.tree.put p n }

/-- Looks at what the names lead to from a place on, and, if it is a directory and the look goes
`deep`, at everything below it. `fuel` bounds the number of steps down. -/
def look (deep : Bool) : (fuel : Nat) → Seen → Place → List Text → IO Seen
  | 0, s, _, _ => pure s
  | n + 1, s, p, name :: names => do
    if name = ".." then look deep n s p.dropLast names
    else
      let here := p ++ [name]
      match ← (entry here).path.symlinkMetadata.toBaseIO with
      | .error _ => pure s
      | .ok m =>
        match m.type with
        | .dir => look deep n (s.add here (.directory {})) here names
        | .symlink =>
          match ← (IO.FS.realPath (entry here).path).toBaseIO with
          | .error _ => pure s
          | .ok target =>
            let target := target.toString.toList
            look deep n (s.add here (.link target)) [] ((Path.ofText target).parts ++ names)
        | .file =>
          match ← (IO.FS.readBinFile (entry here).path).toBaseIO with
          | .error _ => pure (s.add here (.file ⟨false, true, true⟩ []))
          | .ok contents => pure (s.add here (.file {} contents.toList))
        | .other => pure s
  | n + 1, s, p, [] => do
    if !deep || s.listed.contains p then pure s
    else
      let s := { s with listed := p :: s.listed }
      match ← (entry p).path.readDir.toBaseIO with
      | .error _ => pure { s with tree := s.tree.put p (.directory ⟨false, true, true⟩) }
      | .ok entries =>
        entries.toList.foldlM (fun s e ↦ look deep n s p [e.fileName.toList]) s

/-- Looks at what a path leads to. -/
def lookAt (deep : Bool) (current : Place) (s : Seen) (p : Path) : IO Seen :=
  look deep pathLimit s [] ((if p.isAbsolute then [] else current) ++ p.parts)

/-- Looks at what a command line with these settings is about. -/
def survey (current : Place) (s : CommandLine.Settings) : IO Tree := do
  let fixed := [Path.here, s.workspace.child Build.sectionsName,
    s.workspace.child Build.declarationsName, s.list]
  let seen ← fixed.foldlM (lookAt false current) {}
  let names := (s.allRoots ⟨⟨seen.tree, current⟩, none⟩).outcome.toOption.getD []
  let roots := names.map fun name ↦ s.workspace / Path.ofText name
  let aggregators := names.map fun name ↦
    s.workspace / Aggregator.path (Path.ofText name) s.extension
  let seen ← roots.foldlM (lookAt true current) seen
  let seen ← aggregators.foldlM (lookAt false current) seen
  pure seen.tree

/-! ### Writing and printing -/

/-- Makes the directories and writes the files that are new or changed. -/
def writeChanges (before after : Tree) : IO Unit :=
  after.nodes.forM fun (p, n) ↦ do
    if before.node? p ≠ some n then
      match n with
      | .directory _ => IO.FS.createDirAll (placeText p)
      | .file _ contents => IO.FS.writeBinFile (placeText p) ⟨contents.toArray⟩
      | .link _ => pure ()

/-- Prints a text on a stream. -/
def put (stream : IO.FS.Stream) (t : Text) : IO Unit := stream.putStr (String.ofList t)

/-- Prints what there is to print, and says the exit status. -/
def finish (ending : CommandLine.Ending) : IO UInt32 := do
  match ending with
  | .exit status output errors =>
    put (← IO.getStdout) output
    put (← IO.getStderr) errors
    pure status.toUInt32
  | .refused message =>
    put (← IO.getStderr) (message.getD "malformed command line" ++ ['\n'])
    pure 2
  | .failed f =>
    put (← IO.getStderr) (f.message ++ ['\n'])
    pure 1

/-- Runs a command line. -/
def runWords (words : List Text) : IO UInt32 := do
  let current := (Path.ofText (← IO.currentDir).toString).parts
  let tree ←
    match CommandLine.Request.ofWords ⟨.empty, current⟩ words with
    | .ok r => survey current r.settings
    | .error _ => pure .empty
  let outcome := CommandLine.runWords ⟨⟨tree, current⟩, none⟩ words
  writeChanges tree outcome.host.disk.tree
  finish outcome.ending

end StyleLinter.Program

/-- Runs the words of the command line. -/
def main (words : List String) : IO UInt32 := StyleLinter.Program.runWords (words.map String.toList)
