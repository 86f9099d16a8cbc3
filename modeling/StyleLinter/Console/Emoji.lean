import StyleLinter.Console.Emoji.Table
import StyleLinter.Text.Blank

/-!
# Pictographs by name

Between two colons with no blank in between, a known name stands for a pictograph: `:100:` does. The
name may be followed by `-text` or `-emoji`, which asks for one of the two presentations. A code
whose name is unknown stays as it is, **and is still used up**, so its second colon does not begin
another code.
-/

namespace StyleLinter.Console.Emoji

/-- The lower-case form of a letter, for the letters that occur in names. -/
def lower (c : Char) : Char :=
  let n := c.toNat
  if c.isUpper then c.toLower
  else if 0xc0 ≤ n ∧ n ≤ 0xde ∧ n ≠ 0xd7 then Char.ofNat (n + 0x20)
  else if n = 0x212a then 'k'
  else if n = 0x212b then Char.ofNat 0xe5
  else c

/-- Is this part of a pictograph? A colon is not, so a pictograph makes no further code. -/
def isPicture (c : Char) : Bool := c != '\n' && c != ':'

/-- The pictograph of a name. -/
def find? (name : Text) : Option Text :=
  match name with
  | [] => none
  | initial :: _ =>
    (Text.cutAt? ("\n" ++ name ++ " ") (named initial)).map fun (_, rest) ↦
      rest.takeWhile isPicture

/-- The name between two colons, and the presentation selector that its ending asks for. -/
def nameAndSelector (code : Text) : Text × Text :=
  if Text.endsWith code "-emoji" then (code.take (code.length - 6), ['\ufe0f'])
  else if Text.endsWith code "-text" then (code.take (code.length - 5), ['\ufe0e'])
  else (code, [])

/-- What a code stands for; the code itself between its colons when its name is unknown. -/
def meaning (code : Text) : Text :=
  let (name, selector) := nameAndSelector code
  match find? (name.map lower) with
  | some glyph => glyph ++ selector
  | none => ":" ++ code ++ ":"

/-- After a colon: the characters up to the next colon, if no blank comes first, and what follows
that colon. -/
def code? (t : Text) : Option (Text × Text) :=
  let code := t.takeWhile fun c ↦ c != ':' && !Text.isBlank c
  match t.drop code.length with
  | ':' :: rest => some (code, rest)
  | _ => none

theorem length_of_code? {t code rest : Text} (h : code? t = some (code, rest)) :
    rest.length < t.length := by
  simp only [code?] at h
  split at h
  · rename_i r heq
    simp only [Option.some.injEq, Prod.mk.injEq] at h
    have hl := congrArg List.length heq
    simp only [List.length_drop, List.length_cons] at hl
    rw [← h.2]
    omega
  · simp at h

/-- The text with every code replaced by what it stands for. -/
def replace : Text → Text
  | [] => []
  | ':' :: r =>
    match _h : code? r with
    | some (code, rest) => meaning code ++ replace rest
    | none => ':' :: replace r
  | c :: r => c :: replace r
termination_by t => t.length
decreasing_by
  · have := length_of_code? _h
    simp only [List.length_cons]
    omega
  all_goals simp

end StyleLinter.Console.Emoji
