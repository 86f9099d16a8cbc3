import StyleLinter.Toml.Scalar
import StyleLinter.Toml.Value

/-!
# Reading a build file in sections

A file is a row of statements, one on each line: a **pair** of a key and a value, the **header** of
a table or the header of another table in an array. The statements are carried out one after the
other on the table that stands for the whole file, and the first that is malformed, or that cannot
be carried out, ends the reading.

Values nest, and they do so no deeper than the text is long; `depth` counts down from there, and the
loops that read the items of an array, the entries of a table and the statements count down
likewise.
-/

namespace StyleLinter.Toml

/-! ### Between statements and values -/

/-- The text without a leading comment; its line ending stays. -/
def afterComment (t : Text) : Except Fault Text :=
  match t with
  | '#' :: r =>
    if (r.takeWhile (· != '\n')).any isControl then .error .malformed
    else .ok (r.dropWhile (· != '\n'))
  | _ => .ok t

/-- The text without the blanks, line endings and comments it begins with. -/
def afterGap (inComment : Bool) : Text → Except Fault Text
  | [] => .ok []
  | c :: r =>
    if c = '\n' then afterGap false r
    else if inComment then if isControl c then .error .malformed else afterGap true r
    else if c = '#' then afterGap true r
    else if isSpace c then afterGap false r
    else .ok (c :: r)

/-! ### Keys -/

/-- The characters of a name without quotes. -/
def isBare (c : Char) : Bool := c.isAlphanum || c == '-' || c == '_'

/-- A name in a key. -/
def keyPart (t : Text) : Except Fault (Text × Text) :=
  match t with
  | '"' :: r => quotedBody false r
  | '\'' :: r => literalBody false r
  | _ =>
    let name := t.takeWhile isBare
    if name.isEmpty then .error .malformed else .ok (name, t.dropWhile isBare)

/-- A key: names with dots between them, and blanks around the dots. -/
def key : (limit : Nat) → Text → Except Fault (List Text × Text)
  | 0, _ => .error .malformed
  | n + 1, t => do
    let (name, t) ← keyPart t
    match t.dropWhile isSpace with
    | '.' :: r => do
      let (names, t) ← key n (r.dropWhile isSpace)
      pure (name :: names, t)
    | t => pure ([name], t)

/-! ### Values -/

/-- How a value is read. -/
abbrev ValueReader := Text → Except Fault (Value × Text)

/-- A pair of a key and a value. -/
def pair (value : ValueReader) (t : Text) : Except Fault (List Text × Value × Text) := do
  let (names, t) ← key t.length t
  match t with
  | '=' :: r => do
    let (v, t) ← value (r.dropWhile isSpace)
    pure (names, v, t)
  | _ => .error .malformed

/-- The items of an array, up to its closing bracket. -/
def items (value : ValueReader) : (limit : Nat) → Text → Except Fault (List Value × Text)
  | 0, _ => .error .malformed
  | n + 1, t => do
    match ← afterGap false t with
    | ']' :: r => pure ([], r)
    | t => do
      let (v, t) ← value t
      match ← afterGap false t with
      | ']' :: r => pure ([v], r)
      | ',' :: r => do
        let (vs, t) ← items value n r
        pure (v :: vs, t)
      | _ => .error .malformed

/-- The pairs of a table that stands inline, up to its closing brace. -/
def entries (value : ValueReader) : (limit : Nat) → Table → Text → Except Fault (Table × Text)
  | 0, _, _ => .error .malformed
  | n + 1, table, t => do
    let (names, v, t) ← pair value (t.dropWhile isSpace)
    match table.assign 0 v names with
    | none => .error .malformed
    | some table =>
      match t.dropWhile isSpace with
      | '\x7d' :: r => pure (table, r)
      | ',' :: r => entries value n table r
      | _ => .error .malformed

/-- A value, with values of at most this depth in it. -/
def value : (depth : Nat) → ValueReader
  | 0, _ => .error .malformed
  | n + 1, t =>
    match string? t with
    | some x => x.map fun (s, r) ↦ (.text s, r)
    | none =>
      match t with
      | '[' :: r => (items (value n) t.length r).map fun (vs, r) ↦ (.array vs, r)
      | '\x7b' :: r =>
        match r.dropWhile isSpace with
        | '\x7d' :: r => .ok (.table .inline [], r)
        | r => (entries (value n) t.length [] r).map fun (table, r) ↦ (.table .inline table, r)
      | _ => (plain t).map fun r ↦ (.other, r)

/-! ### Statements -/

/-- A statement. -/
inductive Statement where
  /-- A pair. -/
  | pair (names : List Text) (value : Value)
  /-- The header of a table. -/
  | header (names : List Text)
  /-- The header of another table in an array. -/
  | item (names : List Text)

/-- The key of a header and the rest after the closing brackets. -/
def headerKey (closing : Text) (t : Text) : Except Fault (List Text × Text) := do
  let (names, t) ← key t.length (t.dropWhile isSpace)
  match Text.after? closing t with
  | some r => pure (names, r)
  | none => .error .malformed

/-- A statement, unless a comment comes first. -/
def statement (t : Text) : Except Fault (Option Statement × Text) :=
  match t with
  | '#' :: _ => .ok (none, t)
  | '[' :: '[' :: r => (headerKey "]]" r).map fun (names, r) ↦ (some (.item names), r)
  | '[' :: r => (headerKey "]" r).map fun (names, r) ↦ (some (.header names), r)
  | _ => (pair (value t.length) t).map fun (names, v, r) ↦ (some (.pair names v), r)

/-- What was read of a file. -/
structure Document where
  /-- Everything so far. -/
  root : Table
  /-- The names of the table that pairs belong to. -/
  names : List Text
  /-- The number of headers so far. -/
  headers : Nat

namespace Document

/-- A file of which nothing was read. -/
def empty : Document := ⟨[], [], 0⟩

/-- Carries out a change in the table that all names but the last lead to; the last is handed on. -/
def onLast (d : Document) (names : List Text) (change : Text → Table → Option Table) :
    Option Document :=
  match names.getLast? with
  | none => none
  | some last =>
    (d.root.within (change last) names.dropLast).map fun root ↦ ⟨root, names, d.headers + 1⟩

/-- Carries out a statement. -/
def add (d : Document) : Statement → Option Document
  | .pair names v =>
    (d.root.within (Table.assign d.headers v names) d.names).map fun root ↦ { d with root }
  | .header names => d.onLast names Table.declare
  | .item names => d.onLast names Table.grow

/-- Carries out a statement that may be missing. -/
def add? (d : Document) (s : Option Statement) : Except Fault Document :=
  match s with
  | none => .ok d
  | some s =>
    match d.add s with
    | none => .error .malformed
    | some d => .ok d

end Document

/-- Reads the statements of a text into a document. -/
def statements : (limit : Nat) → Document → Text → Except Fault Table
  | 0, _, _ => .error .malformed
  | n + 1, d, t =>
    match t.dropWhile isSpace with
    | [] => .ok d.root
    | '\n' :: r => statements n d r
    | t => do
      let (s, t) ← statement t
      let d ← d.add? s
      match ← afterComment (t.dropWhile isSpace) with
      | [] => pure d.root
      | '\n' :: r => statements n d r
      | _ => .error .malformed

/-- The text with a line feed for each carriage return and line feed. -/
def unifyPairs : Text → Text
  | [] => []
  | '\r' :: '\n' :: r => '\n' :: unifyPairs r
  | c :: r => c :: unifyPairs r

/-- The table that a text stands for. -/
def parse (t : Text) : Except Fault Table :=
  let t := unifyPairs t
  statements (t.length + 1) .empty t

end StyleLinter.Toml
