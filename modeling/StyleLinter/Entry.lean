import StyleLinter.Invalid
import StyleLinter.Kind

/-!
# Records and violations

An **entry** speaks of one kind of finding on one line of one file: these three make up its key. A
**record** is an entry of the exception list, which accepts a finding; its message is a note for
people. A **violation** is a finding itself, and its message says what is wrong. A violation can be
accepted as it stands, as the record with the same key and message (`toRecord`).

Keys are checked where they are made: `Key.ofParts` makes one from any parts that are well formed
and says which part is not. So a key that exists is well formed.

Keys are ordered by path, then by line, then by kind.
-/

namespace StyleLinter

/-- Which finding an entry speaks of. -/
structure Key where
  /-- The file, as a relative path. -/
  path : Text
  /-- The number of the line, from one. -/
  line : Nat
  /-- The tag of the kind. -/
  kind : Text
  path_ne_nil : path ≠ []
  relative : path.head? ≠ some '/'
  line_pos : 0 < line
  kind_isTag : Kind.isTag kind = true
deriving DecidableEq

namespace Key

/-- The key with the given parts. -/
def ofParts (path : Text) (line : Int) (kind : Text) : Except Invalid Key :=
  if hp : path = [] then .error .emptyPath
  else if hr : path.head? = some '/' then .error (.absolutePath path)
  else if hl : line ≤ 0 then .error (.lineNotPositive line)
  else if hk : Kind.isTag kind = true then .ok ⟨path, line.toNat, kind, hp, hr, by omega, hk⟩
  else .error (.malformedKind kind)

/-- Does the first key come before the second, or are they equal? -/
def le (a b : Key) : Bool :=
  if a.path ≠ b.path then Text.le a.path b.path
  else if a.line ≠ b.line then a.line ≤ b.line
  else Text.le a.kind b.kind

end Key

/-- An entry of the exception list. -/
structure Record where
  /-- The finding that is accepted. -/
  key : Key
  /-- A note. -/
  message : Text
deriving DecidableEq

/-- A finding. -/
structure Violation extends Record where
  message_ne_nil : message ≠ []
deriving DecidableEq

namespace Record

/-- The record with the given parts. -/
def ofParts (path : Text) (line : Int) (kind message : Text) : Except Invalid Record :=
  (Key.ofParts path line kind).map (⟨·, message⟩)

/-- The line of the exception list for a record. -/
def toText (r : Record) : Text :=
  r.key.path ++ " : line " ++ Text.ofNat r.key.line ++ " : " ++ r.key.kind ++ " : " ++ r.message

/-- Can the record be written? The number of the line may have as many digits as are read. -/
def isWritable (r : Record) : Bool := (Text.ofNat r.key.line).length ≤ Text.digitLimit

end Record

/-- The violation with the given parts. -/
def Violation.ofParts (path : Text) (line : Int) (kind message : Text) : Except Invalid Violation :=
  match Key.ofParts path line kind with
  | .error e => .error e
  | .ok key => if h : message = [] then .error .emptyMessage else .ok ⟨⟨key, message⟩, h⟩

end StyleLinter
