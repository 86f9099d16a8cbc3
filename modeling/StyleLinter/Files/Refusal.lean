import StyleLinter.Text.Quoted

/-!
# Refusals of the file system

Why the file system does not do what it is asked to do. Each refusal has a number and a wording;
together with the path in question they make up the message that people see.
-/

namespace StyleLinter.Files

/-- Why the file system refuses. -/
inductive Refusal where
  /-- Nothing has this name. -/
  | notFound
  /-- The rights do not allow it. -/
  | denied
  /-- Something has this name already. -/
  | alreadyExists
  /-- A name on the way is no directory. -/
  | notDirectory
  /-- A directory is no file. -/
  | isDirectory
  /-- A name or a path is longer than the file system allows. -/
  | nameTooLong
  /-- Too many symbolic links are on the way. -/
  | tooManyLinks
deriving DecidableEq, Repr

namespace Refusal

/-- The number of a refusal. -/
def code : Refusal → Nat
  | notFound => 2
  | denied => 13
  | alreadyExists => 17
  | notDirectory => 20
  | isDirectory => 21
  | nameTooLong => 36
  | tooManyLinks => 40

/-- The wording of a refusal. -/
def wording : Refusal → Text
  | notFound => "No such file or directory"
  | denied => "Permission denied"
  | alreadyExists => "File exists"
  | notDirectory => "Not a directory"
  | isDirectory => "Is a directory"
  | nameTooLong => "File name too long"
  | tooManyLinks => "Too many levels of symbolic links"

/-- The message about a refusal: its number, its wording and the quoted path. -/
def message (r : Refusal) (path : Text) : Text :=
  "[Errno " ++ Text.ofNat r.code ++ "] " ++ r.wording ++ ": " ++ Text.quoted path

/-- The refusals that mean that a path leads nowhere. Asking what a path leads to answers them by
"nothing"; the others are passed on. -/
def meansNothingThere : Refusal → Bool
  | notFound | notDirectory | tooManyLinks => true
  | _ => false

end Refusal

end StyleLinter.Files
