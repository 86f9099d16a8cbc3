import StyleLinter.Text.Basic

/-!
# Blank characters

A **blank** is a character that is trimmed off a field and that separates words. The set is the one
of the Unicode property, with the four information separators: it has the no-break spaces and the
line breaks, and it has neither the zero-width space nor the byte order mark.
-/

namespace StyleLinter.Text

/-- The ranges of blank characters, in increasing order. -/
def blankRanges : List (Nat × Nat) :=
  [(0x09, 0x0d), (0x1c, 0x20), (0x85, 0x85), (0xa0, 0xa0), (0x1680, 0x1680), (0x2000, 0x200a),
    (0x2028, 0x2029), (0x202f, 0x202f), (0x205f, 0x205f), (0x3000, 0x3000)]

/-- Does the code point lie in one of the ranges? -/
def inRanges (ranges : List (Nat × Nat)) (n : Nat) : Bool :=
  ranges.any fun (lo, hi) ↦ lo ≤ n && n ≤ hi

/-- Blank characters separate words and are trimmed off fields. -/
def isBlank (c : Char) : Bool := inRanges blankRanges c.toNat

/-- The text without its leading blanks. -/
def trimStart (t : Text) : Text := t.dropWhile isBlank

/-- The text without its trailing blanks. -/
def trimEnd (t : Text) : Text := t.dropEndWhile isBlank

/-- The text without its leading and its trailing blanks. -/
def trim (t : Text) : Text := trimEnd (trimStart t)

end StyleLinter.Text
