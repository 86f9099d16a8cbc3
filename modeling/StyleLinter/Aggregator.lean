import StyleLinter.Discovery.Search

/-!
# Aggregators

The aggregator of a library root is the file beside it, with the extension of source files, that
imports every module of the library, one on each line. It is **up to date** if its text is that of
the modules that are there; otherwise it is written anew, or only reported.
-/

namespace StyleLinter.Aggregator

open Discovery

/-- The path of the aggregator of a root. -/
def path (root : Path) (extension : Text) : Path :=
  Path.ofText (aggregatorText root.toText extension)

/-- The text of an aggregator that imports the modules. -/
def render (modules : List Text) : Text :=
  modules.flatMap fun m ↦ "import ".toList ++ m ++ ['\n']

/-- The failure of reading or writing an aggregator. -/
def obstacle (target : Path) : Files.Obstacle → Failure
  | .refused r => .discovery target (.refused r)
  | .nul => .invalid .nulInPath

/-- The text of an aggregator, if it is there. -/
def current (host : Host) (target : Path) : Except Failure (Option Text) :=
  match host.disk.exists? target with
  | .error o => .error (obstacle target o)
  | .ok false => .ok none
  | .ok true =>
    match host.disk.read target with
    | .error o => .error (obstacle target o)
    | .ok bytes =>
      match Utf8.decode bytes with
      | .error f => .error (.notText f)
      | .ok t => .ok (some (Text.unifyNewlines t))

/-- What a root's aggregator should say, with its path and its number of imports, and what it
says. -/
def compare (s : Search) (host : Host) (root : Path) :
    Attempt (Path × List Text × Option Text) := do
  let target := s.base / path root s.extension
  let modules ← s.modules host root
  let text ← Attempt.ofExcept (current host target)
  pure (target, modules, text)

/-- Is the aggregator of a root up to date? Nothing is written. -/
def check (s : Search) (host : Host) (root : Path) : Attempt Bool := do
  let (target, modules, text) ← compare s host root
  if text = some (render modules) then pure true
  else
    Attempt.note (.outOfDate target)
    pure false

/-- Writes the aggregator of a root unless it is up to date, and says whether it was. -/
def update (s : Search) (host : Host) (root : Path) : Attempt (Host × Bool) := do
  let (target, modules, text) ← compare s host root
  if text = some (render modules) then pure (host, true)
  else
    match host.disk.write target (Utf8.encode (render modules)) with
    | .error o => Attempt.fail (obstacle target o)
    | .ok disk =>
      Attempt.note (.updated target modules.length)
      pure (host.withDisk disk, false)

end StyleLinter.Aggregator
