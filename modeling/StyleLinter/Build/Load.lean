import StyleLinter.Build.Declarations
import StyleLinter.Host
import StyleLinter.Package
import StyleLinter.Toml.Reader

/-!
# Loading the package of a workspace

A workspace has a build file in sections or, if there is none, one made of declarations. Either
names the package and its libraries. Whatever is wrong with the build file that was chosen, the
other one is not tried.
-/

namespace StyleLinter.Build

/-- The name of a build file in sections. -/
def sectionsName : Text := "lakefile.toml"

/-- The name of a build file made of declarations. -/
def declarationsName : Text := "lakefile.lean"

/-! ### Build files in sections -/

/-- The text under a name, if there is one and it is not empty. -/
def textUnder? (name : Text) (t : Toml.Table) : Option Text :=
  match t.lookup name with
  | some (.text t) => if t.isEmpty then none else some t
  | _ => none

/-- The name of a library that an item of an array stands for. -/
def libraryName? : Toml.Value → Option Text
  | .table _ t => textUnder? "name" t
  | _ => none

/-- The names of the libraries of a file. -/
def libraryNames (t : Toml.Table) : Except LoadFault (List Text) :=
  let names : Option (List Text) → Except LoadFault (List Text)
    | some ls => .ok ls
    | none => .error .unnamedLibrary
  match t.lookup "lean_lib".toList with
  | none => .ok []
  | some (.array items) => names (items.mapM libraryName?)
  | some (.tables earlier last) => names ((earlier ++ [last]).mapM (textUnder? "name"))
  | some _ => .error .librariesNoArray

/-- The name and the libraries of a package. -/
def namesIn (t : Toml.Table) : Except LoadFault (Text × List Text) :=
  match textUnder? "name" t with
  | none => .error .noPackageName
  | some name => (libraryNames t).map (name, ·)

/-- The table that a build file in sections stands for. -/
def readSections (host : Host) (path : Path) : Except Failure Toml.Table :=
  match host.disk.read path with
  | .error (.refused r) => .error (.load path (.refused r))
  | .error .nul => .error (.invalid .nulInPath)
  | .ok bytes =>
    match Utf8.decode bytes with
    | .error f => .error (.notText f)
    | .ok t =>
      match Toml.parse t with
      | .error .malformed => .error (.load path .malformed)
      | .error (.numeralTooLong n) => .error (.invalid (.numeralTooLong n))
      | .ok table => .ok table

/-- The package of a build file in sections. -/
def loadSections (host : Host) (path : Path) : Attempt Package := do
  let table ← Attempt.ofExcept (readSections host path)
  let (name, libraries) ← Attempt.ofExcept ((namesIn table).mapError (.load path))
  Attempt.note (.loadedSections path name libraries)
  Attempt.ofExcept ((Package.ofParts name libraries).mapError .invalid)

/-! ### Build files made of declarations -/

/-- The text of a build file made of declarations. -/
def readDeclarations (host : Host) (path : Path) : Except Failure Text :=
  match host.readText path with
  | .error (.refused r _) => .error (.load path (.refused r))
  | .error (.notText f) => .error (.load path (.notText f))
  | x => x

/-- The package of a build file made of declarations. -/
def loadDeclarations (host : Host) (path : Path) : Attempt Package := do
  let text ← Attempt.ofExcept (readDeclarations host path)
  match Declarations.package? text with
  | none => Attempt.fail (.load path .noPackage)
  | some name => do
    let libraries := Declarations.libraries text
    Attempt.note (.loadedDeclarations path name libraries)
    Attempt.ofExcept ((Package.ofParts name libraries).mapError .invalid)

/-! ### Workspaces -/

/-- Does the path lead to a regular file? -/
def isFile (host : Host) (path : Path) : Except Failure Bool :=
  (host.disk.isFile? path).mapError (.ofObstacle path)

/-- The package of a workspace. -/
def load (host : Host) (workspace : Path) : Attempt Package := do
  let sections := workspace.child sectionsName
  let declarations := workspace.child declarationsName
  if ← Attempt.ofExcept (isFile host sections) then loadSections host sections
  else if ← Attempt.ofExcept (isFile host declarations) then loadDeclarations host declarations
  else Attempt.fail (.load workspace .noBuildFile)

/-- The libraries of a workspace to work on. -/
def libraries (host : Host) (workspace : Path) (primary : Primary) : Attempt (List Text) := do
  let package ← load host workspace
  let libraries := primary.libraries package
  if package.name = primary.name then Attempt.note (.adjusted package.name libraries)
  pure libraries

end StyleLinter.Build
