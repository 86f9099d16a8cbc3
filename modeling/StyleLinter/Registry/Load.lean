import StyleLinter.Host
import StyleLinter.Registry

/-!
# Loading the registry

The exception list of a run is a file. That it is missing, that the rights do not allow reading it
and that it is no text are failures to load a configuration, and other refusals are passed on.
Messages about its lines call it by its path.
-/

namespace StyleLinter.Registry

/-- The text of an exception list. -/
def readList (host : Host) (path : Path) : Except Failure Text :=
  match host.readText path with
  | .error (.refused .notFound _) => .error (.load path .noList)
  | .error (.refused .denied _) => .error (.load path .denied)
  | .error (.notText f) => .error (.load path (.notText f))
  | x => x

/-- The registry of the exception list at a path. -/
def ofFile (host : Host) (path : Path) : Except Failure Registry :=
  match readList host path with
  | .error f => .error f
  | .ok text => ofText text path

/-- The registry of an exception list that need not be there unless it is required. -/
def ofFileIfThere (host : Host) (path : Path) (required : Bool) : Attempt Registry :=
  if required then Attempt.ofExcept (ofFile host path)
  else
    match host.disk.exists? path with
    | .error o => Attempt.fail (.ofObstacle path o)
    | .ok true => Attempt.ofExcept (ofFile host path)
    | .ok false => do
      Attempt.note (.noList path)
      pure empty

end StyleLinter.Registry
