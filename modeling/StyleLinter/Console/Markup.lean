import StyleLinter.Console.Emoji
import StyleLinter.Console.Style

/-!
# Marked-up text

A **tag** is a left bracket, a lower-case letter or one of `#`, `/`, `@`, and everything up to the
next right bracket, as long as no other left bracket comes first. A tag that begins with a slash
closes a style, any other tag opens one; neither is shown. A backslash before a tag takes the
tag's meaning away, and a pair of backslashes there is one backslash.

`plain?` is the text that is shown. It fails exactly if a tag closes a style that is not open.
`escape` marks up a text so that its own brackets are no tags.
-/

namespace StyleLinter.Console.Markup

/-! ### Tags -/

/-- The characters that a tag can begin with. -/
def beginsTag (c : Char) : Bool := ('a' ≤ c && c ≤ 'z') || c == '#' || c == '/' || c == '@'

/-- The inside of the tag that the text begins with, and what follows the tag. -/
def tag? : Text → Option (Text × Text)
  | '[' :: c :: r =>
    if beginsTag c then
      let more := r.takeWhile fun x ↦ x != ']' && x != '['
      match r.drop more.length with
      | ']' :: rest => some (c :: more, rest)
      | _ => none
    else none
  | _ => none

theorem length_of_tag? {t inside rest : Text} (h : tag? t = some (inside, rest)) :
    rest.length < t.length := by
  unfold tag? at h
  split at h
  · rename_i c r
    split at h
    · simp only at h
      split at h
      · rename_i r' heq
        simp only [Option.some.injEq, Prod.mk.injEq] at h
        have hl := congrArg List.length heq
        simp only [List.length_drop, List.length_cons] at hl
        rw [← h.2]
        simp only [List.length_cons]
        omega
      · simp at h
    · simp at h
  · simp at h

/-- A piece of marked-up text. -/
inductive Piece where
  /-- Text to show. -/
  | shown (text : Text)
  /-- A tag, by what stands between its brackets. -/
  | tag (inside : Text)
deriving Repr, DecidableEq

/-- The characters before the first backslashes-and-tag, the number of these backslashes, the tag
and what follows it. -/
def nextTag? : Text → Option (Text × Nat × Text × Text)
  | [] => none
  | c :: r =>
    let slashes := ((c :: r).takeWhile (· == '\\')).length
    match tag? ((c :: r).drop slashes) with
    | some (inside, rest) => some ([], slashes, inside, rest)
    | none => (nextTag? r).map fun (front, found) ↦ (c :: front, found)

theorem length_of_nextTag? {t front inside rest : Text} {n : Nat}
    (h : nextTag? t = some (front, n, inside, rest)) : rest.length < t.length := by
  induction t generalizing front with
  | nil => simp [nextTag?] at h
  | cons c r ih =>
    simp only [nextTag?] at h
    split at h
    · rename_i inside' rest' htag
      simp only [Option.some.injEq, Prod.mk.injEq] at h
      have := length_of_tag? htag
      simp only [List.length_drop] at this
      rw [← h.2.2.2]
      omega
    · simp only [Option.map_eq_some_iff, Prod.mk.injEq, Prod.exists] at h
      obtain ⟨front', n', inside', rest', hr, -, rfl, rfl, rfl⟩ := h
      have := ih hr
      simp only [List.length_cons]
      omega

/-- A text as a piece, unless there is nothing to show. -/
def shownUnlessEmpty (t : Text) : List Piece := if t.isEmpty then [] else [.shown t]

/-- The pieces of a marked-up text, with the backslashes before tags resolved. -/
def pieces (t : Text) : List Piece :=
  match _h : nextTag? t with
  | none => shownUnlessEmpty t
  | some (front, slashes, inside, rest) =>
    shownUnlessEmpty front ++ shownUnlessEmpty (List.replicate (slashes / 2) '\\')
      ++ [if slashes % 2 = 1 then .shown ("[" ++ inside ++ "]") else .tag inside]
      ++ pieces rest
termination_by t.length
decreasing_by exact length_of_nextTag? _h

/-! ### What is shown -/

/-- Why marked-up text cannot be shown. -/
inductive Fault where
  /-- A tag closes a style that is not open. -/
  | nothingToClose (tag : Text)
deriving Repr, DecidableEq

/-- The name of a tag: what stands before its first equals sign. -/
def tagName (inside : Text) : Text := inside.takeWhile (· != '=')

/-- The control characters that are never shown. -/
def isHidden (c : Char) : Bool :=
  c.toNat == 0x07 || c.toNat == 0x08 || c.toNat == 0x0b || c.toNat == 0x0c || c.toNat == 0x0d

/-- The text without the control characters that are never shown. -/
def visible (t : Text) : Text := t.filter (!isHidden ·)

/-- A backslash before a left bracket is dropped. -/
def dropBracketEscapes : Text → Text
  | [] => []
  | '\\' :: '[' :: r => '[' :: dropBracketEscapes r
  | c :: r => c :: dropBracketEscapes r

/-- What a stretch of text between tags shows. -/
def showText (t : Text) : Text := visible (Emoji.replace (dropBracketEscapes t))

/-- The styles that are open after a tag, the innermost first. -/
def step (opened : List Text) (inside : Text) : Except Fault (List Text) :=
  let name := tagName inside
  if Text.startsWith name "/" then
    let style := Text.trim (name.drop 1)
    if style.isEmpty then
      match opened with
      | [] => .error (.nothingToClose inside)
      | _ :: others => .ok others
    else
      if opened.contains (Style.normalize style) then .ok (opened.erase (Style.normalize style))
      else .error (.nothingToClose inside)
  else .ok (Style.normalize name :: opened)

/-- What the pieces show when the given styles are open. -/
def showPieces (opened : List Text) : List Piece → Except Fault Text
  | [] => .ok []
  | .shown t :: ps => (showText t ++ ·) <$> showPieces opened ps
  | .tag inside :: ps =>
    match step opened inside with
    | .ok opened' => showPieces opened' ps
    | .error f => .error f

/-- The text that a marked-up text shows. -/
def plain? (t : Text) : Except Fault Text := showPieces [] (pieces t)

/-! ### Escaping -/

/-- The text with its tags escaped. -/
def escapeTags (t : Text) : Text :=
  match _h : nextTag? t with
  | none => t
  | some (front, slashes, inside, rest) =>
    front ++ List.replicate (2 * slashes + 1) '\\' ++ "[" ++ inside ++ "]" ++ escapeTags rest
termination_by t.length
decreasing_by exact length_of_nextTag? _h

/-- Marked-up text for a text: its tags are escaped, and a single backslash at its end is doubled so
that it does not escape what is put after it. -/
def escape (t : Text) : Text :=
  let e := escapeTags t
  if Text.endsWith e "\\" && !Text.endsWith e "\\\\" then e ++ "\\" else e

end StyleLinter.Console.Markup
