import StyleLinter.Text.Basic

/-!
# Paths

A path is kept in its **normal form**: its parts have neither empty ones nor single dots among them,
while double dots stay. It is relative, or absolute with one or two leading slashes (three and more
count as one). So two spellings of a path are equal as soon as they have the same normal form, and
`toText` writes each path in one way only. The path without parts is written as a single dot.
-/

namespace StyleLinter

/-- A path in normal form. -/
structure Path where
  /-- The leading slashes: none for a relative path. -/
  slashes : Nat
  /-- The names on the way. -/
  parts : List Text
deriving DecidableEq, Repr

namespace Path

/-- Is this a part of a normal form? -/
def isPart (t : Text) : Bool := !t.isEmpty && t != "."

/-- The path that a text spells. -/
def ofText (t : Text) : Path where
  slashes :=
    match t with
    | '/' :: '/' :: '/' :: _ => 1
    | '/' :: '/' :: _ => 2
    | '/' :: _ => 1
    | _ => 0
  parts := (Text.pieces '/' t).filter isPart

/-- The text of a path. -/
def toText (p : Path) : Text :=
  if p.slashes = 0 ∧ p.parts = [] then "."
  else List.replicate p.slashes '/' ++ Text.joinWith "/" p.parts

instance : Coe Path Text := ⟨toText⟩

/-- Does the path begin at the root of the file system? -/
def isAbsolute (p : Path) : Bool := p.slashes != 0

/-- The path `q`, taken from `p` on. An absolute path is what it is from everywhere. -/
def join (p q : Path) : Path := if q.isAbsolute then q else ⟨p.slashes, p.parts ++ q.parts⟩

instance : HDiv Path Path Path := ⟨join⟩

/-- The path one name further down. -/
def child (p : Path) (name : Text) : Path := ⟨p.slashes, p.parts ++ [name]⟩

/-- The path without its last part. -/
def parent (p : Path) : Path := ⟨p.slashes, p.parts.dropLast⟩

/-- The current directory. -/
def here : Path := ⟨0, []⟩

/-- The parts, with the leading slashes of an absolute path as a part of their own. -/
def allParts (p : Path) : List Text :=
  (if p.isAbsolute then [List.replicate p.slashes '/'] else []) ++ p.parts

end Path

end StyleLinter
