import StyleLinter.Attempt
import StyleLinter.Files.Disk
import StyleLinter.Text.Lines

/-!
# The host

The linter works on a host: a disk, and the program for version control if it is installed. All that
is known of the program is what it answers.
-/

namespace StyleLinter

/-- What a program prints and how it exits, whatever it is asked. -/
structure Program where
  /-- What it prints. -/
  output : Bytes
  /-- What it prints about errors. -/
  errors : Bytes
  /-- Its exit status. -/
  status : Nat
deriving DecidableEq, Repr

/-- Where the linter works. -/
structure Host where
  /-- The files. -/
  disk : Files.Disk
  /-- The program for version control. -/
  git : Option Program

namespace Host

/-- The host with another disk. -/
def withDisk (h : Host) (d : Files.Disk) : Host := { h with disk := d }

end Host

/-- The failure that an obstacle to an operation on a path is. -/
def Failure.ofObstacle (path : Path) : Files.Obstacle → Failure
  | .refused r => .refused r path
  | .nul => .invalid .nulInPath

namespace Host

/-- The contents of a file as text, with all line endings alike. -/
def readText (h : Host) (path : Path) : Except Failure Text :=
  match h.disk.read path with
  | .error o => .error (.ofObstacle path o)
  | .ok bytes =>
    match Utf8.decode bytes with
    | .error f => .error (.notText f)
    | .ok t => .ok (Text.unifyNewlines t)

end Host

end StyleLinter
