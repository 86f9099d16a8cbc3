import StyleLinter.Text.Basic

/-!
# Kinds of findings

A finding has a **kind**, written as a tag: an upper-case letter and then upper-case letters, digits
and underscores, ASCII all of them. Tags are an open set. The rules that come with the linter have
the eight kinds of `Rule`, each with a message that says what is wrong; two of the rules replace it
by one that names their limit, and one adds the string that it found.

A line feed at the very end of a tag is let pass, as if it were the end of a line.
-/

namespace StyleLinter

namespace Kind

/-- Can a tag begin with this character? -/
def isInitial (c : Char) : Bool := 'A' ≤ c && c ≤ 'Z'

/-- Can a tag go on with this character? -/
def isInner (c : Char) : Bool := isInitial c || ('0' ≤ c && c ≤ '9') || c == '_'

/-- Can a tag go on like this? -/
def isTail : Text → Bool
  | [] => true
  | ['\n'] => true
  | c :: r => isInner c && isTail r

/-- Is the text the tag of a kind? -/
def isTag : Text → Bool
  | [] => false
  | c :: r => isInitial c && isTail r

end Kind

/-- The kinds of the rules that come with the linter. -/
inductive Rule where
  /-- The header with copyright and licence is missing or malformed. -/
  | header
  /-- The authors in the header are not a plain list. -/
  | authors
  /-- The documentation of the module is missing or not at its place. -/
  | documentation
  /-- A line is too long. -/
  | lineLength
  /-- The file has too many lines. -/
  | fileLength
  /-- Blanks stand at the end of a line. -/
  | trailingBlanks
  /-- A line ends with a carriage return and a line feed. -/
  | lineEnding
  /-- A line of code begins with a forbidden string. -/
  | forbidden
deriving DecidableEq, Repr

namespace Rule

/-- All rules. -/
def all : List Rule :=
  [header, authors, documentation, lineLength, fileLength, trailingBlanks, lineEnding, forbidden]

/-- The tag of a rule. -/
def tag : Rule → Text
  | header => "ERR_COP"
  | authors => "ERR_AUT"
  | documentation => "ERR_MOD"
  | lineLength => "ERR_LIN"
  | fileLength => "ERR_NUM_LIN"
  | trailingBlanks => "ERR_TWS"
  | lineEnding => "ERR_WIN"
  | forbidden => "ERR_STR"

/-- What is wrong where a rule is broken. -/
def message : Rule → Text
  | header => "Malformed or missing copyright header"
  | authors => "Authors line should look like: 'Authors: Jean Dupont, Иван Иванович Иванов'"
  | documentation => "Module docstring missing, or too late"
  | lineLength => "Line has more than the allowed number of characters"
  | fileLength => "File is too long, try to split it up"
  | trailingBlanks => "Trailing whitespace detected on line"
  | lineEnding => "Windows line endings (\\r\\n) detected"
  | forbidden => "Forbidden string found"

theorem isTag_tag (r : Rule) : Kind.isTag r.tag = true := by cases r <;> decide

theorem message_ne_nil (r : Rule) : r.message ≠ [] := by cases r <;> decide

end Rule

end StyleLinter
