import StyleLinter.Config
import StyleLinter.Discovery.Tracked
import StyleLinter.Discovery.Walk
import StyleLinter.ModuleName

/-!
# The source files of a library

A library root is a directory of the workspace. Its source files are those below it that have the
extension, found by a walk or named by a lister. **The aggregator of the root is never one of
them**, and a name that leads nowhere is dropped, since a listing may be older than the files. The
files come in the order of their paths, relative to the workspace.
-/

namespace StyleLinter.Discovery

/-- How files are searched. -/
structure Search where
  /-- The workspace. -/
  base : Path
  /-- The extension of source files. -/
  extension : Text := defaultExtension
  /-- Where the names come from; the directories are walked if there is no lister. -/
  lister : Option Lister := none

/-- The text of a root, which must name a directory of its own. -/
def rootText (root : Path) : Except Failure Text :=
  if root = Path.here then .error (.discovery root .noRoot) else .ok root.toText

/-- The aggregator of a root. -/
def aggregatorText (root extension : Text) : Text := root ++ extension

namespace Search

/-- What may be a source file of a root. -/
def candidates (s : Search) (host : Host) (root : Path) : Attempt (List Path) :=
  match s.lister with
  | some lister => do
    let names ← lister.names host s.base root s.extension
    pure ((names.filter (!·.isEmpty)).map Path.ofText)
  | none => Attempt.ofExcept (walkRoot host s.base root s.extension)

/-- Keeps a candidate that is there and is not the aggregator. -/
def keep (s : Search) (host : Host) (root path : Path) : Attempt (List Path) :=
  if path.toText = aggregatorText root s.extension then pure []
  else
    match host.disk.exists? (s.base / path) with
    | .error o => Attempt.fail (.ofObstacle (s.base / path) o)
    | .ok true => pure [path]
    | .ok false => do
      Attempt.note (.staleEntry path)
      pure []

/-- The source files of a root. -/
def files (s : Search) (host : Host) (root : Path) : Attempt (List Path) := do
  let text ← Attempt.ofExcept (rootText root)
  let paths ← s.candidates host root
  let kept ← paths.mapM (s.keep host root)
  let sorted := kept.flatten.mergeSort fun p q ↦ Text.le p.toText q.toText
  Attempt.note (.found sorted.length s.extension text)
  pure sorted

/-- The names of the modules in the source files of a root. -/
def modules (s : Search) (host : Host) (root : Path) : Attempt (List Text) := do
  let paths ← s.files host root
  Attempt.ofExcept ((paths.mapM (ModuleName.ofPath · s.extension)).mapError .invalid)

end Search

end StyleLinter.Discovery
