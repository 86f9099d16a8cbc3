import StyleLinter.Aggregator
import StyleLinter.Build.Load
import StyleLinter.CommandLine.Request
import StyleLinter.CommandLine.Stream
import StyleLinter.Lint
import StyleLinter.Registry.Load
import StyleLinter.Report.Plain
import StyleLinter.Report.Rich

/-!
# Running commands

A command line ends with an exit status and what goes to the two streams: 0 if all is well, 1 if
there are new findings, stale records or aggregators that are out of date, and 2 after a fatal
failure. It is refused if it is malformed or if its values make no configuration. Failures that a
command does not expect are handed on.

**What was written before a failure stays written**, so a run hands back its host in any case.
-/

namespace StyleLinter.CommandLine

/-- How a command line ends. -/
inductive Ending where
  /-- With an exit status, and with these texts on the two streams. -/
  | exit (status : Nat) (output errors : Text)
  /-- The command line is refused; the linter may have a word on it. -/
  | refused (message : Option Text)
  /-- With a failure that is handed on. -/
  | failed (f : Failure)

/-- What a run leaves behind. -/
structure Outcome where
  /-- The host after the run. -/
  host : Host
  /-- The notes of the run. -/
  notes : List Note
  /-- How the run ends. -/
  ending : Ending

/-- The lines that a command prints, with an exit status. -/
def printed (status : Nat) (lines : List Text) : Ending :=
  .exit status (lines.flatMap (· ++ ['\n'])) []

/-- How an attempt ends. The failures that a command expects are fatal, the others are handed on. -/
def ended (expected : Failure → Bool) (a : Attempt Ending) : Ending :=
  match a.outcome with
  | .ok e => e
  | .error f =>
    if expected f then
      match fatal f with
      | .ok text => .exit 2 [] text
      | .error f => .failed f
    else .failed f

/-! ### What commands share -/

/-- The usual place of the exception list. -/
def defaultList : Path := ⟨0, ["scripts", "style-exceptions.txt"]⟩

namespace Settings

/-- The place of the exception list. -/
def list (s : Settings) : Path := s.workspace / s.exceptions.getD defaultList

/-- How source files are searched. -/
def search (s : Settings) : Discovery.Search where
  base := s.workspace
  extension := s.extension
  lister := if s.tracked then some (.program Discovery.programName) else none

/-- The configuration of a run. -/
def config (s : Settings) : Except Invalid Config :=
  Config.Draft.check {
    extension := s.extension
    lineLimit := s.lineLimit
    kinds := if s.kinds.isEmpty then none else some s.kinds
    tracked := s.tracked }

/-- The libraries of the workspace. -/
def libraries (s : Settings) (host : Host) : Attempt (List Text) :=
  Build.libraries host s.workspace Primary.default

/-- The roots that were named, or else the libraries of the workspace. -/
def allRoots (s : Settings) (host : Host) : Attempt (List Text) :=
  if s.roots.isEmpty then s.libraries host else pure s.roots

/-- The root that was named. -/
def root (s : Settings) : Path := Path.ofText (s.roots.headD [])

end Settings

/-! ### Lists -/

/-- Lists the source files of a root. -/
def files (s : Settings) (host : Host) : Attempt Ending := do
  let paths ← s.search.files host s.root
  pure (printed 0 (paths.map (·.toText)))

/-- Lists the modules of a root. -/
def modules (s : Settings) (host : Host) : Attempt Ending := do
  let names ← s.search.modules host s.root
  pure (printed 0 names)

/-- Lists the libraries of the workspace. -/
def libraries (s : Settings) (host : Host) : Attempt Ending := do
  let names ← s.libraries host
  pure (printed 0 names)

/-! ### Aggregators -/

/-- Brings the aggregators of the roots up to date, one after the other, and names the roots whose
aggregators were not. -/
def aggregateAll (s : Settings) (host : Host) : List Text → Host × Attempt (List Text)
  | [] => (host, pure [])
  | root :: roots =>
    let first := Aggregator.update s.search host (Path.ofText root)
    match first.outcome with
    | .error f => (host, ⟨first.notes, .error f⟩)
    | .ok (host, upToDate) =>
      let (host, rest) := aggregateAll s host roots
      (host, ⟨first.notes ++ rest.notes,
        rest.outcome.map fun stale ↦ if upToDate then stale else root :: stale⟩)

/-- The roots whose aggregators are out of date. -/
def staleRoots (s : Settings) (host : Host) (roots : List Text) : Attempt (List Text) := do
  let stale ← roots.mapM fun root ↦ do
    let upToDate ← Aggregator.check s.search host (Path.ofText root)
    pure (if upToDate then [] else [root])
  pure stale.flatten

/-- How a command on aggregators ends. -/
def aggregateEnding (s : Settings) (stale : List Text) : Ending :=
  let remark := if s.check then " is out of date".toList else " updated".toList
  printed (if s.check && !stale.isEmpty then 1 else 0)
    (stale.map fun root ↦ Discovery.aggregatorText root s.extension ++ remark)

/-- Writes the aggregators of the roots, or only looks at them. -/
def aggregate (s : Settings) (host : Host) : Host × Attempt Ending :=
  let roots := s.allRoots host
  match roots.outcome with
  | .error f => (host, ⟨roots.notes, .error f⟩)
  | .ok names =>
    let (host, stale) :=
      if s.check then (host, staleRoots s host names) else aggregateAll s host names
    (host, ⟨roots.notes ++ stale.notes, stale.outcome.map (aggregateEnding s)⟩)

/-! ### Findings -/

/-- Lists the records that accept nothing. -/
def audit (s : Settings) (config : Config) (host : Host) : Attempt Ending := do
  let registry ← Registry.ofFileIfThere host s.list s.exceptions.isSome
  let roots ← s.allRoots host
  let run : Lint := ⟨s.workspace, config, registry⟩
  let stale ← run.audit host (roots.map Path.ofText)
  pure (printed (if stale.isEmpty then 0 else 1) (stale.map (·.toText)))

/-- What a run over the roots works with, the roots, and the result. -/
def overRoots (s : Settings) (config : Config) (host : Host) :
    Attempt (Lint × List Path × Result) := do
  let registry ← Registry.ofFileIfThere host s.list (s.exceptions.isSome && !s.update)
  let names ← s.allRoots host
  let roots := names.map Path.ofText
  let run : Lint := ⟨s.workspace, config, registry⟩
  let result ← run.overRoots host roots
  pure (run, roots, result)

/-- The report on a result. -/
def report (s : Settings) (r : Result) : Except Failure Ending :=
  let status := if r.passed then 0 else 1
  if s.format = "plain" then
    if r.new.all (·.isWritable) then
      .ok (.exit status (Report.Plain.findings r) (Report.Plain.summary r))
    else .error (.invalid .numberTooLong)
  else if s.format = "rich" then do
    let layout ← (Report.Rich.Layout.Draft.check {
      showSuppressed := s.showSuppressed
      maximum := s.maximum }).mapError .invalid
    let page ← (Report.Rich.page layout r).mapError .markup
    pure (.exit status page [])
  else .ok (.refused (some ("unknown format ".toList ++ Text.quoted s.format)))

/-- Writes a file, and before that the directories that it is to be in. They are made even if there
is no text to write. -/
def save (host : Host) (path : Path) (text : Except Invalid Text) : Host × Except Failure Unit :=
  match host.disk.makeDirectories path.parent with
  | (disk, .error (o, p)) => (host.withDisk disk, .error (.ofObstacle p o))
  | (disk, .ok ()) =>
    match text with
    | .error i => (host.withDisk disk, .error (.invalid i))
    | .ok text =>
      match disk.write path (Utf8.encode text) with
      | .error o => (host.withDisk disk, .error (.ofObstacle path o))
      | .ok disk => (host.withDisk disk, .ok ())

/-- The message about a list that was written. -/
def savedMessage (path : Path) (found kept : Nat) : Text :=
  "Wrote " ++ Text.ofNat found ++ " exception(s) to " ++ path.toText ++ " (" ++ Text.ofNat kept
    ++ " kept from other roots or kinds)"

/-- Writes the exception list anew: all findings, and the records that the run says nothing
about. -/
def saveList (s : Settings) (host : Host) (run : Lint) (roots : List Path) (r : Result) :
    Host × Except Failure Ending :=
  let kept := Lint.outOfScope run.config roots run.registry
  let text := ExceptionList.write (kept ++ r.all.map (·.toRecord))
  match save host s.list text with
  | (host, .error f) => (host, .error f)
  | (host, .ok ()) =>
    (host, (announcement (savedMessage s.list r.all.length kept.length)).map (.exit 0 []))

/-- Checks the source files of the roots. -/
def lint (s : Settings) (config : Config) (host : Host) : Host × Attempt Ending :=
  let run := overRoots s config host
  match run.outcome with
  | .error f => (host, ⟨run.notes, .error f⟩)
  | .ok (run', roots, result) =>
    let (host, ending) :=
      if s.update then saveList s host run' roots result else (host, report s result)
    (host, ⟨run.notes, ending⟩)

/-! ### Everything -/

/-- Runs a command that leaves the host as it is. -/
def unchanged (host : Host) (expected : Failure → Bool) (a : Attempt Ending) : Outcome :=
  ⟨host, a.notes, ended expected a⟩

/-- Runs a command that may change the host. -/
def changed (expected : Failure → Bool) (a : Host × Attempt Ending) : Outcome :=
  ⟨a.1, a.2.notes, ended expected a.2⟩

/-- Runs a request. -/
def run (host : Host) (r : Request) : Outcome :=
  let s := r.settings
  match r.command with
  | .files => unchanged host Failure.isOwn (files s host)
  | .modules => unchanged host Failure.isOwn (modules s host)
  | .libraries => unchanged host Failure.isOwn (libraries s host)
  | .aggregate => changed Failure.isOwn (aggregate s host)
  | .audit =>
    match s.config with
    | .error i => ⟨host, [], .refused (some i.message)⟩
    | .ok config => unchanged host Failure.isOwn (audit s config host)
  | .lint =>
    match s.config with
    | .error i => ⟨host, [], .refused (some i.message)⟩
    | .ok config => changed (fun f ↦ f.isOwn || f.isRefusal) (lint s config host)

/-- An ending with the log in front of what goes to the second stream. -/
def Ending.withLog (entries : Text) : Ending → Ending
  | .exit status output errors => .exit status output (entries ++ errors)
  | e => e

/-- Runs a command line. -/
def runWords (host : Host) (words : List Text) : Outcome :=
  match Request.ofWords host.disk words with
  | .error .malformed => ⟨host, [], .refused none⟩
  | .error (.failure f) => ⟨host, [], .failed f⟩
  | .ok r =>
    let o := run host r
    { o with ending := o.ending.withLog (log r.verbose o.notes) }

end StyleLinter.CommandLine
