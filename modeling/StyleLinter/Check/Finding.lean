import StyleLinter.Config
import StyleLinter.Entry
import StyleLinter.Text.Lines

/-!
# Findings

A check looks at the raw lines of one file, endings and all, and returns its **findings**: a rule,
the line where it is broken, and a message. It does not know the file; a finding becomes a violation
when it is put into one.
-/

namespace StyleLinter.Check

/-- A broken rule. -/
structure Finding where
  /-- The number of the line, from one. -/
  line : Nat
  /-- The rule. -/
  rule : Rule
  /-- What is wrong. -/
  message : Text
deriving DecidableEq, Repr

/-- A broken rule with the message of the rule. -/
def Finding.plain (line : Nat) (rule : Rule) : Finding := ⟨line, rule, rule.message⟩

/-- The violation that a finding is in a file. -/
def Finding.inFile (f : Finding) (path : Text) : Except Invalid Violation :=
  Violation.ofParts path f.line f.rule.tag f.message

end StyleLinter.Check
