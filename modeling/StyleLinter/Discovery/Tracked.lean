import StyleLinter.Host
import StyleLinter.Text.Blank
import StyleLinter.Text.Lines

/-!
# Files that version control knows

The program for version control is asked for the files under a root with an extension. It runs in
the workspace and answers with names that a NUL character separates, so that a name can hold
anything else; any number of separators may stand between two names and at the ends.

A lister can also be **given**: then it is a list of names and no program runs.
-/

namespace StyleLinter.Discovery

/-- Where the names of tracked files come from. -/
inductive Lister where
  /-- From the program for version control. -/
  | program (name : Text)
  /-- From the caller. -/
  | given (names : List Text)
deriving DecidableEq, Repr

/-- The usual name of the program for version control. -/
def programName : Text := "git"

/-- The command that lists the files under a root with an extension. -/
def listingCommand (program root extension : Text) : List Text :=
  [program, "ls-files", "-z", "--", root ++ "/*" ++ extension]

/-- Lets a directory be the current one of a command. -/
def enterDirectory (host : Host) (command : List Text) (dir : Path) : Except Failure Unit :=
  match host.disk.spot dir with
  | .error .nul => .error (.invalid .nulInPath)
  | .error (.refused .notFound) => .error (.listing command dir .noExecutable)
  | .error (.refused r) => .error (.refusedDirectory r dir)
  | .ok s =>
    match host.disk.tree.passage s.place with
    | .error r => .error (.refusedDirectory r dir)
    | .ok () => .ok ()

/-- Finds the program that a command runs. A name with a slash is a path from the directory; no file
of the disk can be run. -/
def findProgram (host : Host) (command : List Text) (dir : Path) : Except Failure Program :=
  let name := command.headD []
  if name.contains '/' then
    match host.disk.spot (dir / Path.ofText name) with
    | .error (.refused .notFound) => .error (.listing command dir .noExecutable)
    | .error (.refused r) => .error (.refusedCommand r name)
    | .error .nul => .error (.invalid .nulInPath)
    | .ok _ => .error (.refusedCommand .denied name)
  else
    match host.git with
    | some p => if name = programName then .ok p else .error (.listing command dir .noExecutable)
    | none => .error (.listing command dir .noExecutable)

/-- What a program printed, as text with all line endings alike. -/
def printedText (bytes : Bytes) : Except Failure Text :=
  match Utf8.decode bytes with
  | .ok t => .ok (Text.unifyNewlines t)
  | .error f => .error (.notText f)

/-- The names in a text, which NUL characters separate. -/
def namesIn (t : Text) : List Text := (Text.pieces '\x00' t).filter (!·.isEmpty)

/-- The names that a program answered with. -/
def answeredNames (command : List Text) (dir : Path) (p : Program) :
    Except Failure (List Text) := do
  let output ← printedText p.output
  let errors ← printedText p.errors
  if p.status = 0 then pure (namesIn output)
  else
    let said := Text.trim errors
    let fault : ListingFault := if said.isEmpty then .exit p.status else .stated said
    .error (.listing command dir fault)

/-- The names of the tracked files under a root with an extension, as the program gives them. -/
def askProgram (host : Host) (program : Text) (dir : Path) (root extension : Text) :
    Attempt (List Text) := do
  let command := listingCommand program root extension
  Attempt.note (.running command dir)
  if command.any (·.contains '\x00') then Attempt.fail (.invalid .nulInPath)
  else
    Attempt.ofExcept (enterDirectory host command dir)
    let p ← Attempt.ofExcept (findProgram host command dir)
    Attempt.note (.ran (command.drop 1))
    Attempt.ofExcept (answeredNames command dir p)

/-- The names of the tracked files under a root with an extension. -/
def Lister.names (lister : Lister) (host : Host) (dir : Path) (root extension : Text) :
    Attempt (List Text) :=
  match lister with
  | .program name => askProgram host name dir root extension
  | .given names => do
    Attempt.note (.asked root extension)
    pure names

end StyleLinter.Discovery
