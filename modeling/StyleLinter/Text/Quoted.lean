import StyleLinter.Text.Printable

/-!
# Quoted text

Messages quote the text they complain about, so that blanks and control characters show. Quoted
text stands between single quotes, or between double quotes when it has a single quote and no
double one. The quote in use and the backslash are escaped, line feed, carriage return and tab have
short escapes, and any other unprintable character is written by its code point in lower-case
hexadecimal, in two, four or eight digits.
-/

namespace StyleLinter.Text

/-- The last `width` hexadecimal digits of a number, with leading zeros. -/
def hex : (width : Nat) → Nat → Text
  | 0, _ => []
  | w + 1, n => hex w (n / 16) ++ [Nat.digitChar (n % 16)]

theorem length_hex (w n : Nat) : (hex w n).length = w := by
  induction w generalizing n with
  | zero => rfl
  | succ w ih => simp [hex, ih]

/-- The quote that encloses a text. -/
def quoteFor (t : Text) : Char := if t.contains '\'' && !t.contains '"' then '"' else '\''

/-- How a character is written between `quote`s. -/
def escapeChar (quote c : Char) : Text :=
  if c = quote ∨ c = '\\' then ['\\', c]
  else if c = '\n' then "\\n"
  else if c = '\r' then "\\r"
  else if c = '\t' then "\\t"
  else if isPrintable c then [c]
  else if c.toNat < 0x100 then "\\x" ++ hex 2 c.toNat
  else if c.toNat < 0x10000 then "\\u" ++ hex 4 c.toNat
  else "\\U" ++ hex 8 c.toNat

/-- The text between quotes, with everything escaped that would not show. -/
def quoted (t : Text) : Text :=
  let q := quoteFor t
  [q] ++ t.flatMap (escapeChar q) ++ [q]

/-- The texts, each quoted, in square brackets. -/
def quotedList (ts : List Text) : Text := "[" ++ joinWith ", " (ts.map quoted) ++ "]"

end StyleLinter.Text
