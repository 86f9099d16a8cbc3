import StyleLinter.Check.Documentation
import StyleLinter.Check.Header
import StyleLinter.Check.Lines

/-!
# Checkers

A checker answers for one rule or for two. The checkers of a run are those that can make a finding
that the run reports, in a fixed order, **which is the order of the findings in a file**.
-/

namespace StyleLinter.Check

/-- A checker. -/
inductive Checker where
  /-- The header and its authors. -/
  | header
  /-- The documentation of the module. -/
  | documentation
  /-- The length of the file. -/
  | fileLength
  /-- The lengths of the lines. -/
  | lineLength
  /-- The ends of the lines. -/
  | lineEnds
  /-- The strings that no line of code may begin with. -/
  | forbidden (words : List Text)
deriving DecidableEq

namespace Checker

/-- The rules that a checker answers for. -/
def rules : Checker → List Rule
  | header => [.header, .authors]
  | documentation => [.documentation]
  | fileLength => [.fileLength]
  | lineLength => [.lineLength]
  | lineEnds => [.trailingBlanks, .lineEnding]
  | forbidden _ => [.forbidden]

/-- What the checker finds in the lines of a file. -/
def findings (checker : Checker) (config : Config) (lines : List Text) : List Finding :=
  match checker with
  | header => Header.findings lines
  | documentation => Documentation.findings lines
  | fileLength => Check.fileLength config.fileLimit lines
  | lineLength => Check.lineLength config.lineLimit lines
  | lineEnds => Check.lineEnds lines
  | forbidden words => Check.forbidden words lines

/-- All checkers, in the order of their findings. -/
def all (config : Config) : List Checker :=
  [header, documentation, fileLength, lineLength, lineEnds, forbidden config.forbidden]

/-- Can the checker find something to report? -/
def isActive (config : Config) (checker : Checker) : Bool :=
  checker.rules.any (config.reports ·.tag) && checker != forbidden []

/-- The checkers of a run. -/
def active (config : Config) : List Checker := (all config).filter (isActive config)

/-- The checker for strings that no line of code may begin with; there must be one at least. -/
def ofForbidden (words : List Text) : Except Invalid Checker :=
  if words = [] then .error .nothingForbidden else .ok (forbidden words)

end Checker

/-- What the checkers find in a file, checker by checker. -/
def violations (checkers : List Checker) (config : Config) (path : Text) (lines : List Text) :
    Except Invalid (List Violation) :=
  (checkers.flatMap (·.findings config lines)).mapM (·.inFile path)

end StyleLinter.Check
