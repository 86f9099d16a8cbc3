import StyleLinter.Check.Checker
import StyleLinter.Discovery.Search
import StyleLinter.Registry
import StyleLinter.Result

/-!
# Runs

A run checks files, keeps the findings of the kinds that its configuration reports, and splits them
into those that are new and those that the registry exempts. It runs over given files or over the
source files of library roots, **each of which is checked once** although roots may lie in one
another.

A record is in the **scope** of a run over roots if its file is below one of them and its kind is
reported. A run says nothing about the other records: an audit does not call them stale, and they
are kept when the exception list is written anew.
-/

namespace StyleLinter

/-- What a run works with. -/
structure Lint where
  /-- The workspace. -/
  base : Path
  /-- The configuration. -/
  config : Config
  /-- The registry. -/
  registry : Registry

namespace Lint

/-! ### Files -/

/-- The failure of reading a source file. -/
def readingFailure (path : Path) : Files.Obstacle → Failure
  | .refused .notFound => .discovery path .notFound
  | .refused .denied => .discovery path .denied
  | o => .ofObstacle path o

/-- The lines of a source file, with their endings. -/
def readLines (host : Host) (path : Path) : Except Failure (List Text) :=
  match host.disk.read path with
  | .error o => .error (readingFailure path o)
  | .ok bytes =>
    match Utf8.decodeSource bytes with
    | .error f => .error (.discovery path (.notText f))
    | .ok t => .ok (Text.sourceLines t)

/-- The findings in a file of the kinds that are reported. -/
def inFile (run : Lint) (host : Host) (checkers : List Check.Checker) (path : Path) :
    Except Failure (List Violation) :=
  match readLines host (run.base / path) with
  | .error f => .error f
  | .ok lines =>
    match Check.violations checkers run.config path lines with
    | .error i => .error (.invalid i)
    | .ok vs => .ok (vs.filter (run.config.reports ·.key.kind))

/-- The result for the findings in so many files. -/
def split (run : Lint) (count : Nat) (vs : List Violation) : Result where
  new := vs.filter (!run.registry.exempts ·)
  suppressed := vs.filter run.registry.exempts
  files := count

/-- The run over the files. -/
def overFiles (run : Lint) (host : Host) (checkers : List Check.Checker) (paths : List Path) :
    Attempt Result := do
  let found ← Attempt.ofExcept (paths.mapM (run.inFile host checkers))
  let result := run.split paths.length found.flatten
  Attempt.note (.checked result.files result.new.length result.suppressed.length)
  pure result

/-! ### Roots -/

/-- How the run searches the files of a root. -/
def search (run : Lint) (lister : Discovery.Lister) : Discovery.Search where
  base := run.base
  extension := run.config.extension
  lister := if run.config.tracked then some lister else none

/-- The run over the source files of the roots. -/
def overRoots (run : Lint) (host : Host) (roots : List Path)
    (lister : Discovery.Lister := .program Discovery.programName) : Attempt Result := do
  let found ← roots.mapM ((run.search lister).files host)
  run.overFiles host (Check.Checker.active run.config) found.flatten.eraseDups

/-- Is the file below the root? -/
def isUnder (root : Path) (file : Text) : Bool := Text.startsWith file (root.toText ++ ['/'])

/-- Does a run over the roots look for what the record accepts? -/
def inScope (config : Config) (roots : List Path) (r : Record) : Bool :=
  roots.any (isUnder · r.key.path) && config.reports r.key.kind

/-- The records that a run over the roots says nothing about, in load order. -/
def outOfScope (config : Config) (roots : List Path) (registry : Registry) : List Record :=
  registry.records.filter (!inScope config roots ·)

/-- The records in the scope of a run over the roots that accept nothing it finds, in load order. -/
def audit (run : Lint) (host : Host) (roots : List Path)
    (lister : Discovery.Lister := .program Discovery.programName) : Attempt (List Record) := do
  let result ← run.overRoots host roots lister
  pure ((run.registry.stale result.all).filter (inScope run.config roots))

end Lint

end StyleLinter
