import StyleLinter.Text.Numeral

/-!
# Texts, numbers and dates

The readers of values that hold no other values. Each reads as much as it can at the beginning of a
text and hands back **the rest**; what the rest may be is for those to say who come next.

A text stands between quotes or between apostrophes, on one line or, with three of them, on several;
between quotes a backslash begins an escape. Of numbers, dates and times only the form is read. A
number that is written in decimal digits, without a fraction or an exponent, must not be too long.
-/

namespace StyleLinter.Toml

/-- Why a build file in sections cannot be read. -/
inductive Fault where
  /-- It is not well formed. -/
  | malformed
  /-- A whole number has too many digits. -/
  | numeralTooLong (digits : Nat)
deriving DecidableEq, Repr

/-! ### Characters -/

/-- The blanks inside of a line. -/
def isSpace (c : Char) : Bool := c == ' ' || c == '\t'

/-- The blanks between lines and inside of them. -/
def isGap (c : Char) : Bool := isSpace c || c == '\n'

/-- The control characters that stand in no text and in no comment. -/
def isControl (c : Char) : Bool := (c.toNat < 0x20 || c.toNat == 0x7f) && c != '\t'

/-- The decimal digits of numbers and dates. -/
def isDecimal (c : Char) : Bool := c.isDigit

/-- The hexadecimal digits. -/
def isHex (c : Char) : Bool :=
  c.isDigit || ('a' ≤ c && c ≤ 'f') || ('A' ≤ c && c ≤ 'F')

/-- The value of a hexadecimal digit. -/
def hexValue (c : Char) : Nat :=
  if c.isDigit then c.toNat - '0'.toNat
  else if 'a' ≤ c then c.toNat - 'a'.toNat + 10
  else c.toNat - 'A'.toNat + 10

/-! ### Texts -/

/-- The character that a code point of so many digits stands for. -/
def codeEscape? (width : Nat) (t : Text) : Option (Text × Text) :=
  let digits := t.take width
  if digits.length = width && digits.all isHex then
    let n := digits.foldl (fun n c ↦ 16 * n + hexValue c) 0
    if n.isValidChar then some ([Char.ofNat n], t.drop width) else none
  else none

/-- Skips a line ending with the blanks before it and the gap after it. -/
def foldedLine? (t : Text) : Option (Text × Text) :=
  match t.dropWhile isSpace with
  | '\n' :: r => some ([], r.dropWhile isGap)
  | _ => none

/-- What an escape stands for, after its backslash. Line endings are escaped only in texts over
several lines. -/
def escape? (multiline : Bool) (t : Text) : Option (Text × Text) :=
  match t with
  | 'b' :: r => some (['\x08'], r)
  | 't' :: r => some (['\t'], r)
  | 'n' :: r => some (['\n'], r)
  | 'f' :: r => some (['\x0c'], r)
  | 'r' :: r => some (['\r'], r)
  | '"' :: r => some (['"'], r)
  | '\\' :: r => some (['\\'], r)
  | 'u' :: r => codeEscape? 4 r
  | 'U' :: r => codeEscape? 8 r
  | _ => if multiline then foldedLine? t else none

theorem length_of_escape? {multiline : Bool} {t s r : Text}
    (h : escape? multiline t = some (s, r)) : r.length ≤ t.length := by
  have code : ∀ {w : Nat} {t s r : Text}, codeEscape? w t = some (s, r) → r.length ≤ t.length := by
    intro w t s r h
    simp only [codeEscape?] at h
    split at h
    · split at h
      · simp only [Option.some.injEq, Prod.mk.injEq] at h
        rw [← h.2, List.length_drop]
        omega
      · simp at h
    · simp at h
  unfold escape? at h
  split at h
  all_goals try
    simp only [Option.some.injEq, Prod.mk.injEq] at h
    obtain ⟨-, rfl⟩ := h
    simp
  · exact Nat.le_succ_of_le (code h)
  · exact Nat.le_succ_of_le (code h)
  · split at h
    · unfold foldedLine? at h
      split at h
      · rename_i r' he
        simp only [Option.some.injEq, Prod.mk.injEq] at h
        obtain ⟨-, rfl⟩ := h
        have h1 := (List.dropWhile_suffix (l := t) isSpace).length_le
        have h2 := (List.dropWhile_suffix (l := r') isGap).length_le
        rw [he, List.length_cons] at h1
        omega
      · simp at h
    · simp at h

/-- A character before the text that was read. -/
def withChar (c : Char) (x : Except Fault (Text × Text)) : Except Fault (Text × Text) :=
  x.map fun (t, r) ↦ (c :: t, r)

/-- The text up to the closing quote. -/
def quotedBody (multiline : Bool) (t : Text) : Except Fault (Text × Text) :=
  match t with
  | [] => .error .malformed
  | c :: r =>
    if c = '"' then
      if multiline then
        match Text.after? "\"\"" r with
        | some rest => .ok ([], rest)
        | none => withChar c (quotedBody multiline r)
      else .ok ([], r)
    else if c = '\\' then
      match _h : escape? multiline r with
      | none => .error .malformed
      | some (s, rest) => (quotedBody multiline rest).map fun (t, r) ↦ (s ++ t, r)
    else if isControl c && !(multiline && c == '\n') then .error .malformed
    else withChar c (quotedBody multiline r)
termination_by t.length
decreasing_by
  · simp
  · simpa using Nat.lt_succ_of_le (length_of_escape? _h)
  · simp

/-- The text up to the closing apostrophe or the three of them. -/
def literalBody (multiline : Bool) (t : Text) : Except Fault (Text × Text) :=
  match Text.cutAt? (if multiline then "'''" else "'") t with
  | none => .error .malformed
  | some (body, rest) =>
    if body.any fun c ↦ isControl c && !(multiline && c == '\n') then .error .malformed
    else .ok (body, rest)

/-- Up to two further quotes before the closing three belong to the text. -/
def furtherQuotes (quote : Char) (x : Text × Text) : Text × Text :=
  let n := ((x.2.take 2).takeWhile (· == quote)).length
  (x.1 ++ List.replicate n quote, x.2.drop n)

/-- The text without the line feed that follows opening quotes at once. -/
def afterLineFeed (t : Text) : Text := Text.without "\n" t

/-- A text, if quotes or an apostrophe come first. -/
def string? (t : Text) : Option (Except Fault (Text × Text)) :=
  match t with
  | '"' :: '"' :: '"' :: r =>
    some ((quotedBody true (afterLineFeed r)).map (furtherQuotes '"'))
  | '"' :: r => some (quotedBody false r)
  | '\'' :: '\'' :: '\'' :: r =>
    some ((literalBody true (afterLineFeed r)).map (furtherQuotes '\''))
  | '\'' :: r => some (literalBody false r)
  | _ => none

/-! ### Dates and times -/

/-- A number of two digits within bounds. -/
def twoDigits? (low high : Nat) (t : Text) : Option (Nat × Text) :=
  match t with
  | a :: b :: r =>
    if isDecimal a && isDecimal b then
      let n := Text.valueOf [a, b]
      if low ≤ n && n ≤ high then some (n, r) else none
    else none
  | _ => none

/-- The rest after a fraction of a second, if there is one. -/
def afterFraction (t : Text) : Text :=
  match t with
  | '.' :: c :: r => if isDecimal c then r.dropWhile isDecimal else t
  | _ => t

/-- The rest after a time of the day. -/
def time? (t : Text) : Option Text := do
  let (_, t) ← twoDigits? 0 23 t
  let (_, t) ← twoDigits? 0 59 (← Text.after? ":" t)
  let (_, t) ← twoDigits? 0 59 (← Text.after? ":" t)
  pure (afterFraction t)

/-- The rest after an offset from universal time, if there is one. -/
def afterOffset (t : Text) : Text :=
  match t with
  | [] => []
  | c :: r =>
    if c = 'Z' ∨ c = 'z' then r
    else if c = '+' ∨ c = '-' then
      let rest? := do
        let (_, u) ← twoDigits? 0 23 r
        let (_, u) ← twoDigits? 0 59 (← Text.after? ":" u)
        pure u
      rest?.getD t
    else t

/-- Is this a leap year? -/
def isLeap (year : Nat) : Bool := year % 4 = 0 && (year % 100 ≠ 0 || year % 400 = 0)

/-- The number of days in a month. -/
def daysIn (year month : Nat) : Nat :=
  if month = 2 then if isLeap year then 29 else 28
  else if month = 4 ∨ month = 6 ∨ month = 9 ∨ month = 11 then 30
  else 31

/-- A date, as year, month and day, and the rest. -/
def date? (t : Text) : Option (Nat × Nat × Nat × Text) := do
  let (century, t) ← twoDigits? 0 99 t
  let (year, t) ← twoDigits? 0 99 t
  let (month, t) ← twoDigits? 1 12 (← Text.after? "-" t)
  let (day, t) ← twoDigits? 1 31 (← Text.after? "-" t)
  pure (100 * century + year, month, day, t)

/-- The rest after the time that follows a date, if one does. -/
def afterTime (t : Text) : Text :=
  match t with
  | [] => []
  | c :: r =>
    if c = 'T' ∨ c = 't' ∨ c = ' ' then ((time? r).map afterOffset).getD t else t

/-- The rest after a date, with or without a time, or after a time. A date must exist. -/
def moment? (t : Text) : Option (Except Fault Text) :=
  match date? t with
  | some (year, month, day, rest) =>
    if 1 ≤ year && day ≤ daysIn year month then some (.ok (afterTime rest))
    else some (.error .malformed)
  | none => (time? t).map .ok

/-! ### Numbers -/

/-- The digits that follow a digit, without the single underscores between them. -/
def moreDigits (p : Char → Bool) : Text → Text × Text
  | [] => ([], [])
  | '_' :: c :: r =>
    if p c then
      let (ds, rest) := moreDigits p r
      (c :: ds, rest)
    else ([], '_' :: c :: r)
  | c :: r =>
    if p c then
      let (ds, rest) := moreDigits p r
      (c :: ds, rest)
    else ([], c :: r)

/-- Digits, of which there is one at least. -/
def digits? (p : Char → Bool) (t : Text) : Option (Text × Text) :=
  match t with
  | [] => none
  | c :: r =>
    if p c then
      let (ds, rest) := moreDigits p r
      some (c :: ds, rest)
    else none

/-- The rest after a number in base sixteen, two or eight. -/
def otherBase? (t : Text) : Option Text :=
  match t with
  | '0' :: 'x' :: r => (digits? isHex r).map (·.2)
  | '0' :: 'b' :: r => (digits? (fun c ↦ c == '0' || c == '1') r).map (·.2)
  | '0' :: 'o' :: r => (digits? (fun c ↦ '0' ≤ c && c ≤ '7') r).map (·.2)
  | _ => none

/-- The text without a leading sign. -/
def afterSign (t : Text) : Text :=
  match t with
  | '+' :: r | '-' :: r => r
  | _ => t

/-- The digits of a whole number: none follow a leading zero. -/
def whole? (t : Text) : Option (Text × Text) :=
  match t with
  | '0' :: r => some (['0'], r)
  | _ => digits? isDecimal t

/-- The rest after a fraction, if there is one. -/
def afterDecimals (t : Text) : Text :=
  match t with
  | '.' :: r => ((digits? isDecimal r).map (·.2)).getD t
  | _ => t

/-- The rest after an exponent, if there is one. -/
def afterExponent (t : Text) : Text :=
  match t with
  | 'e' :: r | 'E' :: r => ((digits? isDecimal (afterSign r)).map (·.2)).getD t
  | _ => t

/-- The rest after a number. -/
def number? (t : Text) : Option (Except Fault Text) :=
  match otherBase? t with
  | some rest => some (.ok rest)
  | none =>
    (whole? (afterSign t)).map fun (digits, rest) ↦
      let end_ := afterExponent (afterDecimals rest)
      if end_.length = rest.length && Text.digitLimit < digits.length then
        .error (.numeralTooLong digits.length)
      else .ok end_

/-- The rest after the name of a value. -/
def named? (t : Text) : Option Text :=
  ["true", "false", "inf", "nan", "+inf", "-inf", "+nan", "-nan"].findSome? fun (name : String) ↦
    Text.after? name t

/-- The rest after a value that is neither a text nor made of other values. -/
def plain (t : Text) : Except Fault Text :=
  match named? t with
  | some rest => .ok rest
  | none => ((moment? t).orElse fun _ ↦ number? t).getD (.error .malformed)

end StyleLinter.Toml
