import StyleLinter.Check.Finding
import StyleLinter.Text.Blank
import StyleLinter.Text.Numeral

/-!
# The header of a file

A file begins with a header. It has an opening line, a line that says who has the rights and since
which year, a line with the licence, one that names the authors, and a closing line. The authors may
go on over several lines up to the closing one; together they must be a plain list, that is not
empty, without a period at the end and without an "and" between names.

The first line that differs from this is reported, and nothing after it. A file that ends inside the
header, or a header that never ends, is reported on the last line.
-/

namespace StyleLinter.Check.Header

/-- The line that opens a header. -/
def opening : Text := "/-"

/-- The line that closes a header. -/
def closing : Text := "-/"

/-- The line with the licence. -/
def licence : Text := "Released under Apache 2.0 license as described in the file LICENSE."

/-- What the line with the authors begins with. -/
def authorsMark : Text := "Authors: "

/-- What follows four digits at the beginning of a text. -/
def afterYear? : Text → Option Text
  | a :: b :: c :: d :: r => if [a, b, c, d].all Text.isDigit then some r else none
  | _ => none

/-- What follows a year or a range of years at the beginning of a text. -/
def afterYears? (t : Text) : Option Text :=
  match afterYear? t with
  | some ('-' :: r) => afterYear? r
  | other => other

/-- What the line with the copyright ends with. -/
def reserved : Text := ". All rights reserved."

/-- Is this the name of a holder and the end of the line? The name begins with no blank, and the
line goes on to the end. -/
def isHolder (t : Text) : Bool :=
  Text.endsWith t reserved &&
    match t.take (t.length - reserved.length) with
    | [] => false
    | c :: r => !Text.isBlank c && !r.contains '\n'

/-- Is this the line with the copyright? -/
def isCopyright (line : Text) : Bool :=
  match (Text.after? "Copyright (c) " line).bind afterYears? with
  | some (' ' :: r) => isHolder r
  | _ => false

/-- What the first four lines of a header have to be. -/
def tests : List (Text → Bool) :=
  [(· == opening), isCopyright, (· == licence), (Text.startsWith · authorsMark)]

/-- The number of the first of the lines that fails its test, or of the last line when the lines end
too early. `n` is the number of the first line at hand. -/
def deviation? (n : Nat) : List (Text → Bool) → List Text → Option Nat
  | [], _ => none
  | _ :: _, [] => some (max (n - 1) 1)
  | test :: tests, line :: lines =>
    if test line then deviation? (n + 1) tests lines else some n

/-- The lines before the closing line, if there is one. -/
def beforeClosing? : List Text → Option (List Text)
  | [] => none
  | line :: lines => if line = closing then some [] else (beforeClosing? lines).map (line :: ·)

/-- The authors, from the line that names the first of them and the lines that go on. -/
def authors (first : Text) (more : List Text) : Text :=
  Text.trim (Text.joinWith " " (Text.without authorsMark first :: more.map Text.trim))

/-- Are the authors something else than a plain list? -/
def areMalformed (authors : Text) : Bool :=
  authors.isEmpty || Text.endsWith authors "." || Text.occursIn " and " authors

/-- What is wrong with the header. There is at most one finding. -/
def findings (lines : List Text) : List Finding :=
  let text := lines.map Text.dropEnding
  match deviation? 1 tests text with
  | some n => [.plain n .header]
  | none =>
    match text.drop 3 with
    | [] => [.plain text.length .header]
    | first :: rest =>
      match beforeClosing? rest with
      | none => [.plain text.length .header]
      | some more =>
        if areMalformed (authors first more) then [.plain 4 .authors] else []

end StyleLinter.Check.Header
