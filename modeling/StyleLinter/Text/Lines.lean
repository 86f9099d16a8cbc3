import StyleLinter.Text.Basic

/-!
# Lines

There are two ways to cut a text into lines.

* `lines` serves lists that people write: every character that Unicode calls a line break ends a
  line, and the breaks are dropped.
* `sourceLines` serves source files: only a line feed, a carriage return or the two in this order
  end a line, and every line **keeps its ending**, since the ending is something to report on.

`unifyNewlines` writes every ending of the second kind as one line feed.
-/

namespace StyleLinter.Text

/-- The characters that end a line of a list. -/
def isLineBreak (c : Char) : Bool :=
  (0x0a ≤ c.toNat && c.toNat ≤ 0x0d) || (0x1c ≤ c.toNat && c.toNat ≤ 0x1e) || c.toNat == 0x85
    || c.toNat == 0x2028 || c.toNat == 0x2029

/-- The lines of a list, without their breaks. Nothing follows the last break. -/
def lines : Text → List Text
  | [] => []
  | '\r' :: '\n' :: r => [] :: lines r
  | c :: r =>
    if isLineBreak c then [] :: lines r
    else
      match lines r with
      | [] => [[c]]
      | l :: ls => (c :: l) :: ls

/-- The lines of a source file, each with its ending. -/
def sourceLines : Text → List Text
  | [] => []
  | '\r' :: '\n' :: r => ['\r', '\n'] :: sourceLines r
  | c :: r =>
    if c = '\n' ∨ c = '\r' then [c] :: sourceLines r
    else
      match sourceLines r with
      | [] => [[c]]
      | l :: ls => (c :: l) :: ls

/-- Every line ending written as one line feed. -/
def unifyNewlines : Text → Text
  | [] => []
  | '\r' :: '\n' :: r => '\n' :: unifyNewlines r
  | c :: r => (if c = '\r' then '\n' else c) :: unifyNewlines r

/-- A source line without the carriage returns and line feeds at its end. -/
def dropEnding (line : Text) : Text := line.dropEndWhile fun c ↦ c == '\r' || c == '\n'

end StyleLinter.Text
