/-!
# Text

Everything the linter reads, compares and prints is a list of characters. Order on text is the
lexicographic order of code points, and a length is a number of code points, which is what lists
give without further ado.

String literals stand for text through a coercion, so that a message reads the way it is printed.
The module adds the few operations that the list library does not have under these names: testing
and removing a leading or a trailing piece, searching for a piece, cutting at a character, and
trimming the far end.
-/

namespace StyleLinter

/-- A text is the list of its characters. -/
abbrev Text := List Char

instance : Coe String Text := ⟨String.toList⟩

namespace Text

/-- The decimal digits of a natural number. -/
def ofNat (n : Nat) : Text := Nat.toDigits 10 n

/-- The decimal digits of an integer, after a minus sign if it is negative. -/
def ofInt : Int → Text
  | .ofNat n => ofNat n
  | .negSucc n => '-' :: ofNat (n + 1)

/-! ### Pieces at the two ends and inside -/

/-- Does the text begin with `piece`? -/
def startsWith (t piece : Text) : Bool := piece.isPrefixOf t

/-- Does the text end with `piece`? -/
def endsWith (t piece : Text) : Bool := piece.isSuffixOf t

/-- What follows `piece` when the text begins with it. -/
def after? : (piece t : Text) → Option Text
  | [], t => some t
  | _ :: _, [] => none
  | p :: ps, c :: cs => if p = c then after? ps cs else none

theorem after?_eq_some_iff {piece t r : Text} : after? piece t = some r ↔ t = piece ++ r := by
  induction piece generalizing t with
  | nil => simp [after?, eq_comm]
  | cons p ps ih =>
    cases t with
    | nil => simp [after?]
    | cons c cs =>
      by_cases h : p = c
      · subst h; simp [after?, ih]
      · simp [after?, h, Ne.symm h]

/-- The text without a leading `piece`; the text itself when it does not begin with it. -/
def without (piece t : Text) : Text := (after? piece t).getD t

/-- Does `piece` stand somewhere in the text? -/
def occursIn (piece : Text) : Text → Bool
  | [] => piece.isEmpty
  | c :: r => piece.isPrefixOf (c :: r) || occursIn piece r

/-- The text before the first `piece` and the text after it, if there is one. -/
def cutAt? (piece : Text) : Text → Option (Text × Text)
  | [] => if piece.isEmpty then some ([], []) else none
  | c :: r =>
    match after? piece (c :: r) with
    | some rest => some ([], rest)
    | none => (cutAt? piece r).map fun (front, rest) ↦ (c :: front, rest)

theorem eq_of_cutAt? {piece t front rest : Text} (h : cutAt? piece t = some (front, rest)) :
    t = front ++ piece ++ rest := by
  induction t generalizing front with
  | nil =>
    simp only [cutAt?] at h
    split at h
    · simp_all
    · simp at h
  | cons c r ih =>
    simp only [cutAt?] at h
    split at h
    · rename_i hp
      simp only [Option.some.injEq, Prod.mk.injEq] at h
      obtain ⟨rfl, rfl⟩ := h
      simpa using after?_eq_some_iff.mp hp
    · simp only [Option.map_eq_some_iff, Prod.mk.injEq, Prod.exists] at h
      obtain ⟨front', rest', he, rfl, rfl⟩ := h
      simp [ih he]

/-! ### Cutting at a character -/

/-- The pieces between the separators: one more than there are separators. -/
def pieces (sep : Char) : Text → List Text
  | [] => [[]]
  | c :: r =>
    if c = sep then [] :: pieces sep r
    else
      match pieces sep r with
      | [] => [[c]]
      | p :: ps => (c :: p) :: ps

/-- The pieces between the first `n` separators; the last piece keeps the others. -/
def piecesUpTo (sep : Char) : Nat → Text → List Text
  | 0, t => [t]
  | _ + 1, [] => [[]]
  | n + 1, c :: r =>
    if c = sep then [] :: piecesUpTo sep n r
    else
      match piecesUpTo sep (n + 1) r with
      | [] => [[c]]
      | p :: ps => (c :: p) :: ps

/-- The pieces with `sep` between them. -/
def joinWith (sep : Text) : List Text → Text
  | [] => []
  | [t] => t
  | t :: ts => t ++ sep ++ joinWith sep ts

/-! ### The far end -/

/-- The text without its longest tail of characters that satisfy `p`. -/
def dropEndWhile (p : Char → Bool) (t : Text) : Text := (t.reverse.dropWhile p).reverse

/-- The text followed by as many blanks as it takes to make it `n` long. -/
def padEnd (n : Nat) (t : Text) : Text := t ++ List.replicate (n - t.length) ' '

/-- Two texts compare by the code points of their characters. -/
def le : Text → Text → Bool
  | [], _ => true
  | _ :: _, [] => false
  | c :: a, d :: b => c.toNat < d.toNat || c.toNat == d.toNat && le a b

end Text

end StyleLinter
