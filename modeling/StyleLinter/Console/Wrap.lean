import StyleLinter.Console.Cells
import StyleLinter.Text.Blank
import StyleLinter.Text.Lines

/-!
# Lines that fit

Text is laid out in lines of at most so many cells. A line is broken before a word that no longer
fits; the blanks after a word belong to it. A word that fits on no line is either **folded**, that
is cut wherever a line is full, or left in one piece on a line of its own and cut off later.

A tab fills up to the next multiple of eight cells.
-/

namespace StyleLinter.Console

/-- The distance between tab stops. -/
def tabStop : Nat := 8

/-- The text, one line, with its tabs replaced by blanks. `start` is the cell that it begins in. -/
def expandTabs (start : Nat) : Text → Text
  | [] => []
  | '\t' :: r =>
    let n := tabStop - start % tabStop
    List.replicate n ' ' ++ expandTabs (start + n) r
  | c :: r => c :: expandTabs (start + cellsOf c) r

/-- The words of a line, each with the blanks after it, the first also with those before it. A line
of blanks has no words. -/
def wordsOf (t : Text) : List Text :=
  let lead := t.takeWhile Text.isBlank
  match go (t.drop lead.length) with
  | [] => []
  | w :: ws => (lead ++ w) :: ws
where
  /-- Cuts a text that begins with no blank. -/
  go : Text → List Text
  | [] => []
  | [c] => [[c]]
  | c :: d :: r =>
    match go (d :: r) with
    | [] => [[c]]
    | w :: ws => if Text.isBlank c && !Text.isBlank d then [c] :: w :: ws else (c :: w) :: ws

/-- The text cut into stretches of at most `width` cells; a character that is too wide by itself has
a stretch of its own. `room` is what is left of the first stretch. -/
def chop (width : Nat) (room : Nat) : Text → List Text
  | [] => [[]]
  | c :: r =>
    if cellsOf c ≤ room then
      match chop width (room - cellsOf c) r with
      | [] => [[c]]
      | l :: ls => (c :: l) :: ls
    else
      match chop width (width - cellsOf c) r with
      | [] => [[], [c]]
      | l :: ls => [] :: (c :: l) :: ls

/-- A paragraph under way: its finished lines, the last first, the line at hand and the number of
cells that the next word has to respect. -/
structure Filling where
  /-- The finished lines, the last first. -/
  done : List Text
  /-- The line at hand. -/
  line : Text
  /-- The cells in use. -/
  used : Nat

/-- The lines of a filling, in order. -/
def Filling.lines (f : Filling) : List Text := (f.line :: f.done).reverse

/-- The filling with the line at hand finished and `next` begun. -/
def Filling.feed (f : Filling) (next : Text) : Filling :=
  if f.done.isEmpty && f.line.isEmpty then { f with line := next, used := cells next }
  else ⟨f.line :: f.done, next, cells next⟩

/-- Puts a word on the line at hand or on the next one. -/
def Filling.addWord (fold : Bool) (width : Nat) (f : Filling) (word : Text) : Filling :=
  let size := cells (Text.trimEnd word)
  if f.used + size ≤ width then { f with line := f.line ++ word, used := f.used + cells word }
  else if width < size then
    if fold then (chop width width word).foldl Filling.feed f else f.feed word
  else f.feed word

/-- Drops blanks from the end of a line as far as it has more than `width` characters. -/
def dropExcessBlanks (width : Nat) (line : Text) : Text :=
  let blanks := line.length - (Text.trimEnd line).length
  line.take (line.length - min blanks (line.length - width))

/-- The lines of at most `width` cells that a line without line feeds is broken into, before what
still sticks out is cut off. -/
def breakLine (fold : Bool) (width : Nat) (line : Text) : List Text :=
  let expanded := expandTabs 0 line
  let broken :=
    match wordsOf expanded with
    | [] => [expanded]
    | words => (words.foldl (Filling.addWord fold width) ⟨[], [], 0⟩).lines
  broken.map (dropExcessBlanks width)

/-- What still sticks out of a line is cut off; `ellipsis` puts an ellipsis into the last cell. -/
def cutOff (ellipsis : Bool) (width : Nat) (line : Text) : Text :=
  if cells line ≤ width then line
  else if ellipsis then crop (width - 1) line ++ ['…'] else crop width line

/-- The lines of a paragraph: words fold, and nothing sticks out. -/
def paragraph (width : Nat) (t : Text) : List Text :=
  (Text.pieces '\n' t).flatMap fun line ↦ (breakLine true width line).map (cutOff false width)

/-- The lines of a text that is not broken, however long they are. -/
def unbroken (width : Nat) (t : Text) : List Text :=
  (Text.pieces '\n' t).map fun line ↦ dropExcessBlanks width (expandTabs 0 line)

/-- A line without the spaces at its end. -/
def trimSpaces (line : Text) : Text := line.dropEndWhile (· == ' ')

end StyleLinter.Console
