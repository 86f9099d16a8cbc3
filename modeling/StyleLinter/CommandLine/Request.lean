import StyleLinter.CommandLine.Words
import StyleLinter.Config
import StyleLinter.Failure
import StyleLinter.Files.Disk
import StyleLinter.Text.Integer

/-!
# Requests

A request is a command with the settings that the options make. Values are checked: a path that
leads somewhere must be readable, a number must be one. Of several options with one name **the last
counts**, and its value alone is checked, where the first of them stands; only kinds add up.

A command line that makes no request is refused without a word of the linter's own, except that some
values are refused later, when a configuration is made of them.
-/

namespace StyleLinter.CommandLine

/-- What a command works with. Settings that the command has no option for have their defaults. -/
structure Settings where
  /-- The arguments: the roots. -/
  roots : List Text := []
  /-- The workspace. -/
  workspace : Path := Path.here
  /-- The exception list, from the workspace on, if it is not the usual one. -/
  exceptions : Option Path := none
  /-- The kinds to report; all of them if there are none here. -/
  kinds : List Text := []
  /-- Are the files those that version control knows? -/
  tracked : Bool := false
  /-- The extension of source files. -/
  extension : Text := defaultExtension
  /-- The most characters of a line. -/
  lineLimit : Int := 100
  /-- Is the exception list written anew? -/
  update : Bool := false
  /-- The form of the report. -/
  format : Text := "plain"
  /-- Are the exempt findings reported too? -/
  showSuppressed : Bool := false
  /-- The most rows of a table. -/
  maximum : Option Int := none
  /-- Is nothing written? -/
  check : Bool := false

/-- A command with its settings. -/
structure Request where
  /-- Is a detailed log asked for? -/
  verbose : Bool
  /-- The command. -/
  command : Command
  /-- What it works with. -/
  settings : Settings

/-- Why a command line makes no request. -/
inductive Refused where
  /-- It is malformed. -/
  | malformed
  /-- A value makes the reading itself fail. -/
  | failure (f : Failure)

/-! ### Values -/

/-- Does what the text leads to, if it leads somewhere, allow reading? -/
def readable (disk : Files.Disk) (t : Text) : Bool :=
  if t.isEmpty || Files.pathLimit < (Utf8.encode t).length then true
  else
    match disk.tree.spot 0 (Files.origin disk.current t) (Files.steps t) with
    | .error _ => true
    | .ok s =>
      match disk.tree.node? s.place with
      | some (.file rights _) | some (.directory rights) => rights.read
      | _ => true

/-- The path that a value spells. -/
def pathValue (disk : Files.Disk) (t : Text) : Except Refused Path :=
  if t.contains '\x00' then .error (.failure (.invalid (.nulGivenTo "stat")))
  else if readable disk t then .ok (Path.ofText t)
  else .error .malformed

/-- The integer that a value spells. -/
def integerValue (t : Text) : Except Refused Int :=
  match Text.integer? t with
  | some n => .ok n
  | none => .error .malformed

/-- The values that were given for an option, in order. -/
def valuesOf (given : List Given) (s : Switch) : List Text :=
  (given.filter (·.1 = s)).map (·.2)

/-- The value that counts for an option. -/
def lastValue (given : List Given) (s : Switch) : Text := ((valuesOf given s).getLast?).getD []

/-- Are the files those that version control knows, by the last option that says so or not? -/
def trackedBy (given : List Given) : Bool :=
  ((given.map (·.1)).filter fun s ↦ s == .tracked || s == .untracked).getLast? == some .tracked

/-- The settings with those that an option makes. -/
def Settings.set (disk : Files.Disk) (given : List Given) (x : Settings) (s : Switch) :
    Except Refused Settings :=
  let value := lastValue given s
  match s with
  | .workspace => (pathValue disk value).map fun p ↦ { x with workspace := p }
  | .exceptions => (pathValue disk value).map fun p ↦ { x with exceptions := some p }
  | .kind => .ok { x with kinds := valuesOf given s }
  | .tracked | .untracked => .ok { x with tracked := trackedBy given }
  | .extension => .ok { x with extension := value }
  | .lineLimit => (integerValue value).map fun n ↦ { x with lineLimit := n }
  | .update => .ok { x with update := true }
  | .format => .ok { x with format := value }
  | .showSuppressed => .ok { x with showSuppressed := true }
  | .maximum =>
    match integerValue value with
    | .ok n => if n < 0 then .error .malformed else .ok { x with maximum := some n }
    | .error r => .error r
  | .check => .ok { x with check := true }

/-- The settings that the options make. -/
def Settings.ofGiven (disk : Files.Disk) (given : List Given) (roots : List Text) :
    Except Refused Settings :=
  ((given.map (·.1)).eraseDups).foldlM (Settings.set disk given) { roots }

/-- The request that a command line makes. -/
def Request.ofWords (disk : Files.Disk) (words : List Text) : Except Refused Request :=
  match readLine words with
  | none => .error .malformed
  | some line =>
    match Settings.ofGiven disk line.given line.arguments with
    | .error r => .error r
    | .ok settings =>
      let here := (line.given.map (·.1)).contains .workspace || readable disk "."
      if here && line.command.takes line.arguments.length then
        .ok ⟨line.verbose, line.command, settings⟩
      else .error .malformed

end StyleLinter.CommandLine
