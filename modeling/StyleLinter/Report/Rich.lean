import StyleLinter.Console.Markup
import StyleLinter.Console.Table
import StyleLinter.Result

/-!
# The rich report

A page for a screen of some width: a heading, the numbers of the run, the numbers of new findings by
kind, a table of the new findings, a table of the exempt ones if it is asked for, and the verdict.
The tables can be cut to their first rows; how many rows are missing is said below.

Everything on the page is marked-up text, **the cells of the tables included**. So a path or a
message that closes a style which is not open makes the report fail.
-/

namespace StyleLinter.Report.Rich

open Console

/-- How a page looks. -/
structure Layout where
  /-- Is there a table of the exempt findings? -/
  showSuppressed : Bool
  /-- The most rows of a table. -/
  maximum : Option Nat
  /-- The width of the screen, in cells. -/
  width : Nat
  width_ge : 40 ≤ width

/-- A layout before it is checked. -/
structure Layout.Draft where
  /-- Is there a table of the exempt findings? -/
  showSuppressed : Bool := false
  /-- The most rows of a table. -/
  maximum : Option Int := none
  /-- The width of the screen, in cells. -/
  width : Int := 120

/-- The layout of a draft. -/
def Layout.Draft.check (d : Layout.Draft) : Except Invalid Layout :=
  match d.maximum with
  | some (.negSucc n) => .error (.negativeMaximum (.negSucc n))
  | maximum =>
    if h : d.width < 40 then .error (.tooNarrow d.width)
    else .ok ⟨d.showSuppressed, maximum.map Int.toNat, d.width.toNat, by omega⟩

/-- The lines of marked-up text on a page. -/
def printed (width : Nat) (markup : Text) : Except Markup.Fault (List Text) :=
  (Markup.plain? markup).map (paragraph width)

/-- The words in the heading. -/
def headingWords : Text := " STYLE CHECK "

/-- The heading, in the middle of a stroke that is as wide as the screen. -/
def heading (width : Nat) : Text :=
  let left := (width - headingWords.length) / 2
  List.replicate left '─' ++ headingWords
    ++ List.replicate (width - headingWords.length - left) '─'

/-- The numbers of the run. -/
def numbers (r : Result) : Text :=
  "Files: " ++ Text.ofNat r.files ++ "  New: " ++ Text.ofNat r.new.length
    ++ "  Suppressed: " ++ Text.ofNat r.suppressed.length

/-- The kinds of the findings in increasing order, each with the number of its findings. -/
def byKind (vs : List Violation) : List (Text × Nat) :=
  let kinds := vs.map (·.key.kind)
  (kinds.eraseDups.mergeSort Text.le).map fun k ↦ (k, kinds.count k)

/-- The numbers of new findings by kind. -/
def kindNumbers (vs : List Violation) : Text :=
  "(" ++ Text.joinWith ", " ((byKind vs).map fun (k, n) ↦ k ++ ": ".toList ++ Text.ofNat n) ++ ")"

/-- The columns of the tables. -/
def columns : List Column :=
  [⟨"File", false, false⟩, ⟨"Line", true, true⟩, ⟨"Kind", false, true⟩, ⟨"Message", false, true⟩]

/-- The row of a finding. -/
def row (v : Violation) : Except Markup.Fault (List Text) :=
  [v.key.path, Text.ofNat v.key.line, v.key.kind, v.message].mapM Markup.plain?

/-- The findings that a table shows. -/
def shown (layout : Layout) (vs : List Violation) : List Violation :=
  match layout.maximum with
  | none => vs
  | some n => vs.take n

/-- The line that says how many rows are missing. -/
def missing (n : Nat) : Text := "... and " ++ Text.ofNat n ++ " more"

/-- A table with the line below it. -/
def table (layout : Layout) (title : Text) (vs : List Violation) :
    Except Markup.Fault (List Text) := do
  let rows ← (shown layout vs).mapM row
  let hidden := vs.length - (shown layout vs).length
  let more ← if hidden = 0 then pure [] else printed layout.width (missing hidden)
  pure ((Table.mk title columns rows).lines ++ more ++ [[]])

/-- The lines of the page. -/
def lines (layout : Layout) (r : Result) : Except Markup.Fault (List Text) := do
  let numberLines ← printed layout.width (numbers r)
  let kindLines ← if r.new.isEmpty then pure [] else printed layout.width (kindNumbers r.new)
  let new ← if r.new.isEmpty then pure [] else table layout "NEW VIOLATIONS" r.new
  let suppressed ←
    if layout.showSuppressed && !r.suppressed.isEmpty then
      table layout "SUPPRESSED" r.suppressed
    else pure []
  let verdict ← printed layout.width
    ("Result: " ++ if r.passed then "PASSED".toList else "FAILED".toList)
  pure ([[], heading layout.width, []] ++ numberLines ++ kindLines ++ [[]] ++ new ++ suppressed
    ++ verdict)

/-- The page. No line of it ends with a space. -/
def page (layout : Layout) (r : Result) : Except Markup.Fault Text :=
  (lines layout r).map fun ls ↦ ls.flatMap fun l ↦ trimSpaces l ++ ['\n']

end StyleLinter.Report.Rich
