import StyleLinter.Check.Finding
import StyleLinter.Text.Blank

/-!
# Checks that look at each line by itself

The length of lines and of files, blanks and carriage returns at line ends, and strings that no line
of code may begin with.
-/

namespace StyleLinter.Check

/-- The findings that a test makes on each of the lines, in order. The first line has the number
`n`. -/
def eachLine (test : Nat → Text → List Finding) (n : Nat) : List Text → List Finding
  | [] => []
  | line :: lines => test n line ++ eachLine test (n + 1) lines

/-- Lines that are too long. A line with an address in it is let pass. -/
def lineLength (limit : Nat) (lines : List Text) : List Finding :=
  let message := "Line has more than " ++ Text.ofNat limit ++ " characters"
  eachLine (fun n line ↦
    if limit < (Text.dropEnding line).length && !Text.occursIn "http" line then
      [⟨n, .lineLength, message⟩]
    else []) 1 lines

/-- Too many lines, which is reported on the first. -/
def fileLength (limit : Nat) (lines : List Text) : List Finding :=
  if limit < lines.length then
    [⟨1, .fileLength, "file contains " ++ Text.ofNat lines.length ++ " lines (at most "
      ++ Text.ofNat limit ++ "), try to split it up"⟩]
  else []

/-- Does the line end with blanks or tabs, before its ending? -/
def hasTrailingBlanks (line : Text) : Bool :=
  let content := Text.dropEnding line
  match content.getLast? with
  | some c => c == ' ' || c == '\t'
  | none => false

/-- Carriage returns and blanks at the ends of lines. -/
def lineEnds (lines : List Text) : List Finding :=
  eachLine (fun n line ↦
    (if Text.endsWith line "\r\n" then [.plain n .lineEnding] else [])
      ++ if hasTrailingBlanks line then [.plain n .trailingBlanks] else []) 1 lines

/-- What a comment begins with. -/
def commentMark : Text := "--"

/-- Does the code begin with the string, as a word of its own? -/
def beginsWithWord (code word : Text) : Bool :=
  !word.isEmpty &&
    match Text.after? word code with
    | none => false
    | some [] => true
    | some (c :: _) => Text.isBlank c

/-- The first of the strings that the line begins with, unless it is a comment. -/
def forbiddenOn? (words : List Text) (line : Text) : Option Text :=
  let code := Text.trimStart (Text.dropEnding line)
  if Text.startsWith code commentMark then none else words.find? (beginsWithWord code)

/-- Lines of code that begin with one of the strings. -/
def forbidden (words : List Text) (lines : List Text) : List Finding :=
  eachLine (fun n line ↦
    match forbiddenOn? words line with
    | some word => [⟨n, .forbidden, Rule.forbidden.message ++ ": " ++ word⟩]
    | none => []) 1 lines

end StyleLinter.Check
