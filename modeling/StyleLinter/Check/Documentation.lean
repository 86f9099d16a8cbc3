import StyleLinter.Check.Header

/-!
# The documentation of a module

After the header, if there is one, come only blank lines and imports, and then the documentation of
the module. What is reported otherwise is the first line that is neither, or the last line when
there is none.
-/

namespace StyleLinter.Check.Documentation

/-- What the documentation of a module begins with. -/
def mark : Text := "/-!"

/-- The number of lines that the header takes: none when the first line opens none, and all when no
line closes it. -/
def headerLength (text : List Text) : Nat :=
  if text.head? = some Header.opening then
    let before := text.takeWhile (· != Header.closing)
    min (before.length + 1) text.length
  else 0

/-- May the line stand between the header and the documentation? -/
def isSkipped (line : Text) : Bool := line.isEmpty || Text.startsWith line "import "

/-- What is wrong with the documentation. There is at most one finding. -/
def findings (lines : List Text) : List Finding :=
  let text := lines.map Text.trim
  let header := headerLength text
  let skipped := ((text.drop header).takeWhile isSkipped).length
  let index := header + skipped
  match text.drop index with
  | line :: _ =>
    if Text.startsWith line mark then [] else [.plain (index + 1) .documentation]
  | [] => [.plain (max text.length 1) .documentation]

end StyleLinter.Check.Documentation
