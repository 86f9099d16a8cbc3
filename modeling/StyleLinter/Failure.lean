import StyleLinter.Console.Markup
import StyleLinter.Entry
import StyleLinter.Files.Refusal
import StyleLinter.Path
import StyleLinter.Text.Utf8

/-!
# Failures

What can go wrong when the linter works, by cause. Four kinds of failure are the linter's own: a
configuration that cannot be loaded, files that cannot be found or read, a listing command that does
not answer, and a malformed line of the exception list. Each says where it happened and holds a
fault that says what happened; a fault can also be one that a caller states in words.

The other failures are passed on as they come: a refusal of the file system, bytes that are no text,
an invalid value, marked-up text that cannot be shown.
-/

namespace StyleLinter

/-- Why a configuration cannot be loaded. -/
inductive LoadFault where
  /-- The workspace has no build file. -/
  | noBuildFile
  /-- The exception list is not there. -/
  | noList
  /-- The rights do not allow reading the exception list. -/
  | denied
  /-- The file is no text. -/
  | notText (fault : Utf8.Fault)
  /-- The build file is not well formed. -/
  | malformed
  /-- The build file cannot be read. -/
  | refused (refusal : Files.Refusal)
  /-- The build file has no name for the package. -/
  | noPackageName
  /-- The build file declares no package. -/
  | noPackage
  /-- The libraries are no array of tables. -/
  | librariesNoArray
  /-- A library has no name. -/
  | unnamedLibrary
  /-- Something else. -/
  | stated (reason : Text)
deriving DecidableEq, Repr

/-- Why files cannot be found or read. -/
inductive DiscoveryFault where
  /-- The root is the workspace itself. -/
  | noRoot
  /-- The root is no directory. -/
  | notDirectory
  /-- The rights do not allow it. -/
  | denied
  /-- The file is not there. -/
  | notFound
  /-- The file is no text. -/
  | notText (fault : Utf8.Fault)
  /-- The file system refuses. -/
  | refused (refusal : Files.Refusal)
  /-- Something else. -/
  | stated (reason : Text)
deriving DecidableEq, Repr

/-- Why a listing command does not answer. -/
inductive ListingFault where
  /-- There is no such command, or no directory to run it in. -/
  | noExecutable
  /-- The command failed without saying why. -/
  | exit (status : Nat)
  /-- The command said why it failed, or a caller does. -/
  | stated (reason : Text)
deriving DecidableEq, Repr

/-- Why a line of the exception list is malformed. -/
inductive RecordFault where
  /-- The line has fewer than four fields. -/
  | tooFewFields (line : Text)
  /-- The second field is no line number. -/
  | noLineNumber (field : Text)
  /-- The fields make no record. -/
  | invalid (why : Invalid)
  /-- The record was on an earlier line. -/
  | repeats (line : Nat)
  /-- A record with this key came earlier. -/
  | repeatsKey (key : Key)
  /-- Something else. -/
  | stated (reason : Text)
deriving DecidableEq

/-- What can go wrong. -/
inductive Failure where
  /-- A configuration cannot be loaded. -/
  | load (path : Path) (fault : LoadFault)
  /-- Files cannot be found or read. -/
  | discovery (path : Path) (fault : DiscoveryFault)
  /-- A listing command does not answer. -/
  | listing (command : List Text) (directory : Path) (fault : ListingFault)
  /-- A line of an exception list is malformed. -/
  | record (source : Text) (line : Nat) (fault : RecordFault)
  /-- The file system refuses. -/
  | refused (refusal : Files.Refusal) (path : Path)
  /-- The file system refuses to run a command in a directory. -/
  | refusedDirectory (refusal : Files.Refusal) (directory : Path)
  /-- The file system refuses to run a command. -/
  | refusedCommand (refusal : Files.Refusal) (command : Text)
  /-- Bytes are no text. -/
  | notText (fault : Utf8.Fault)
  /-- A value is invalid. -/
  | invalid (why : Invalid)
  /-- An argument is missing. -/
  | missing (argument : Text)
  /-- Marked-up text cannot be shown. -/
  | markup (fault : Console.Markup.Fault)
deriving DecidableEq

/-! ### Wording -/

/-- The wording of a fault in loading. -/
def LoadFault.message : LoadFault → Text
  | noBuildFile => "no lakefile.toml or lakefile.lean found"
  | noList => "exception list not found"
  | denied => "permission denied"
  | notText f => "encoding error: " ++ f.message
  | malformed => "invalid TOML"
  | refused r => r.wording
  | noPackageName => "missing package name"
  | noPackage => "missing package declaration"
  | librariesNoArray => "lean_lib must be an array of tables"
  | unnamedLibrary => "lean_lib entry without a name"
  | stated reason => reason

/-- The wording of a fault in finding or reading files. -/
def DiscoveryFault.message : DiscoveryFault → Text
  | noRoot => "root must name a library directory"
  | notDirectory => "not a directory"
  | denied => "permission denied"
  | notFound => "file not found"
  | notText f => "encoding error: " ++ f.message
  | refused r => r.wording
  | stated reason => reason

/-- The wording of a fault of a listing command. -/
def ListingFault.message : ListingFault → Text
  | noExecutable => "executable not found"
  | exit n => "exit status " ++ Text.ofNat n
  | stated reason => reason

/-- What went wrong with a command, which is quoted. -/
def listingReason (command : List Text) (fault : ListingFault) : Text :=
  "\x60" ++ Text.joinWith " " command ++ "\x60 failed: " ++ fault.message

/-- The wording of a fault of a line. -/
def RecordFault.message : RecordFault → Text
  | tooFewFields t => "expected 'path : line : kind : message', got " ++ Text.quoted t
  | noLineNumber t => "line number must be an integer, got " ++ Text.quoted t
  | invalid i => i.message
  | repeats n => "duplicate of the record on line " ++ Text.ofNat n
  | repeatsKey k =>
    "duplicate record for " ++ k.path ++ " line " ++ Text.ofNat k.line ++ " " ++ k.kind
  | stated reason => reason

/-- The wording of a fault of marked-up text. -/
def Console.Markup.Fault.message : Console.Markup.Fault → Text
  | .nothingToClose tag => "closing tag '[" ++ tag ++ "]' matches no open tag"

namespace Failure

/-- The message about a failure. -/
def message : Failure → Text
  | load p f => "Failed to load " ++ p.toText ++ ": " ++ f.message
  | discovery p f => p.toText ++ ": " ++ f.message
  | listing c d f => d.toText ++ ": " ++ listingReason c f
  | record s n f => s ++ ":" ++ Text.ofNat n ++ ": malformed exception record: " ++ f.message
  | refused r p => r.message p
  | refusedDirectory r d =>
    "[Errno " ++ Text.ofNat r.code ++ "] " ++ r.wording ++ ": PosixPath(" ++ Text.quoted d ++ ")"
  | refusedCommand r c => r.message c
  | notText f => f.message
  | invalid i => i.message
  | missing a => a ++ " must not be None"
  | markup f => f.message

/-! ### Families of failures -/

/-- The failures that are the linter's own. -/
def isOwn : Failure → Bool
  | load .. | discovery .. | listing .. | record .. => true
  | _ => false

/-- The refusals of the file system. -/
def isRefusal : Failure → Bool
  | refused .. | refusedDirectory .. | refusedCommand .. => true
  | _ => false

/-! ### Failures that a caller states -/

/-- A failure to load, stated in words. -/
def ofLoad (path : Option Path) (reason : Text) : Except Failure Failure :=
  match path with
  | none => .error (.missing "path")
  | some p => if reason = [] then .error (.invalid .noReason) else .ok (.load p (.stated reason))

/-- A failure to find or read files, stated in words. -/
def ofDiscovery (path : Option Path) (reason : Text) : Except Failure Failure :=
  match path with
  | none => .error (.missing "path")
  | some p =>
    if reason = [] then .error (.invalid .noReason) else .ok (.discovery p (.stated reason))

/-- A failure of a listing command, stated in words. -/
def ofListing (command : List Text) (directory : Option Path) (reason : Text) :
    Except Failure Failure :=
  if command = [] then .error (.invalid .noCommand)
  else
    match directory with
    | none => .error (.missing "path")
    | some d => .ok (.listing command d (.stated reason))

/-- A failure on a line of an exception list. It must have a source, a line and a reason. -/
def ofRecord (source : Text) (line : Int) (fault : RecordFault) : Failure :=
  if source = [] then .invalid .noSource
  else if line ≤ 0 then .invalid (.failureLine line)
  else if fault.message = [] then .invalid .noLineReason
  else .record source line.toNat fault

end Failure

end StyleLinter
