import StyleLinter.Text.Blank
import StyleLinter.Text.Numeral

/-!
# Integers in words of a command line

An integer is written with digits of any script, single underscores between them, perhaps a sign
before them and blanks around it all. The four information separators, which count as blanks
elsewhere, do not count here.
-/

namespace StyleLinter.Text

/-- The blanks that may stand around an integer. -/
def isMargin (c : Char) : Bool := isBlank c && !(0x1c ≤ c.toNat && c.toNat ≤ 0x1f)

/-- Whether an integer has a minus sign, and what follows its sign. -/
def cutSign : Text → Bool × Text
  | '-' :: r => (true, r)
  | '+' :: r => (false, r)
  | t => (false, t)

/-- The integer that a text spells. -/
def integer? (t : Text) : Option Int :=
  let (negative, digits) := cutSign (dropEndWhile isMargin (t.dropWhile isMargin))
  let groups := pieces '_' digits
  if groups.all fun g ↦ !g.isEmpty && g.all isDigit then
    let digits := groups.flatten
    if digitLimit < digits.length then none
    else some (if negative then -(valueOf digits : Int) else valueOf digits)
  else none

end StyleLinter.Text
