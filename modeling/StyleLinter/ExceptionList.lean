import StyleLinter.Failure
import StyleLinter.Text.Lines
import StyleLinter.Text.Numeral

/-!
# The exception list

The exception list accepts findings, one on each line:

```
Mathlib/Foo.lean : line 1 : ERR_COP : Malformed or missing copyright header
Mathlib/Bar.lean : 17 : ERR_LIN : Line has more than 100 characters
```

The first three colons separate the fields, so the message may have colons of its own; blanks around
a field do not count. The second field is a number, with or without the word `line`. Blank lines,
and lines that begin with a number sign, are skipped. **No key may occur twice.**

`parse` reads a list, in the order of its lines. `render` writes one: sorted by key, and of several
entries with one key the last. What `render` writes is in the form that `parse` reads; so the two
are each other's second side.
-/

namespace StyleLinter.ExceptionList

/-- Is this a line that is skipped, its outer blanks removed? -/
def isSkipped (line : Text) : Bool := line.isEmpty || Text.startsWith line "#"

/-! ### The fields of a line -/

/-- The number that the second field gives: digits, perhaps after a minus sign, perhaps after the
word `line` and blanks. The digits are handed over as they stand. -/
def numeral? (field : Text) : Option (Bool × Text) :=
  let number :=
    match Text.after? "line" field with
    | some (c :: r) => if Text.isBlank c then Text.trimStart (c :: r) else field
    | _ => field
  let (negative, digits) :=
    match number with
    | '-' :: r => (true, r)
    | _ => (false, number)
  if !digits.isEmpty && digits.all Text.isDigit then some (negative, digits) else none

/-- The value of a numeral that is not too long. -/
def valueOf (negative : Bool) (digits : Text) : Except Invalid Int :=
  if Text.digitLimit < digits.length then .error (.numeralTooLong digits.length)
  else .ok (if negative then -(Text.valueOf digits : Int) else Text.valueOf digits)

/-- The fields of a line, without their outer blanks. -/
def fields (line : Text) : List Text := (Text.piecesUpTo ':' 3 line).map Text.trim

/-- The record on a line. -/
def parseLine (line : Text) : Except RecordFault Record :=
  match fields line with
  | [path, number, kind, message] =>
    match numeral? number with
    | none => .error (.noLineNumber number)
    | some (negative, digits) =>
      match valueOf negative digits with
      | .error i => .error (.invalid i)
      | .ok n => (Record.ofParts path n kind message).mapError .invalid
  | _ => .error (.tooFewFields line)

/-! ### A whole list -/

/-- The records on the lines, the first of which has the number `n`. `seen` has the keys of the
lines before, with the numbers of these lines. The first fault ends the reading. -/
def parseLines (seen : List (Key × Nat)) (n : Nat) :
    List Text → Except (Nat × RecordFault) (List Record)
  | [] => .ok []
  | raw :: rest =>
    let line := Text.trim raw
    if isSkipped line then parseLines seen (n + 1) rest
    else
      match parseLine line with
      | .error f => .error (n, f)
      | .ok r =>
        match seen.lookup r.key with
        | some m => .error (n, .repeats m)
        | none => (r :: ·) <$> parseLines ((r.key, n) :: seen) (n + 1) rest

/-- The records of a list, in the order of its lines. `source` is what messages call the list. -/
def parse (text source : Text) : Except Failure (List Record) :=
  (parseLines [] 1 (Text.lines text)).mapError fun (n, f) ↦ Failure.ofRecord source n f

/-- What messages call a list that comes from nowhere in particular. -/
def unnamed : Text := "<string>"

/-! ### Writing -/

/-- The records, of several with one key the last only. -/
def lastOfEach (rs : List Record) : List Record :=
  rs.foldr (fun r later ↦ if later.any (·.key = r.key) then later else r :: later) []

/-- The records as a list: sorted by key, and each key once. -/
def render (rs : List Record) : Text :=
  ((lastOfEach rs).mergeSort fun a b ↦ a.key.le b.key).flatMap fun r ↦ r.toText ++ ['\n']

/-- The list of the records, unless one of them cannot be written. -/
def write (rs : List Record) : Except Invalid Text :=
  if rs.all (·.isWritable) then .ok (render rs) else .error .numberTooLong

end StyleLinter.ExceptionList
