import StyleLinter.Text.Basic

/-!
# The words of a command line

The first words may ask for a detailed log; the next one names the command. The others are options
of the command and its arguments, in any order, up to a double dash, after which all are arguments.

An option has a long name, which begins with two dashes, and some have a short one, a dash and a
letter. **The value of an option is whatever comes next**: after an equals sign in the case of a
long name, after the letter in the case of a short one, or else the next word, even if that looks
like an option.
-/

namespace StyleLinter.CommandLine

/-! ### Options -/

/-- The options of the commands. -/
inductive Switch where
  /-- The workspace. -/
  | workspace
  /-- The exception list. -/
  | exceptions
  /-- A kind to report. -/
  | kind
  /-- The files are those that version control knows. -/
  | tracked
  /-- The files are those that are there. -/
  | untracked
  /-- The extension of source files. -/
  | extension
  /-- The most characters of a line. -/
  | lineLimit
  /-- The exception list is written anew. -/
  | update
  /-- The form of the report. -/
  | format
  /-- The exempt findings are reported too. -/
  | showSuppressed
  /-- The most rows of a table. -/
  | maximum
  /-- Nothing is written. -/
  | check
deriving DecidableEq, Repr

namespace Switch

/-- The long names. -/
def longNames : List (Text × Switch) := [
  ("--workspace", workspace), ("--exceptions", exceptions), ("--kind", kind), ("--git", tracked),
  ("--no-git", untracked), ("--ext", extension), ("--max-line-length", lineLimit),
  ("--update", update), ("--format", format), ("--show-suppressed", showSuppressed),
  ("--max-violations", maximum), ("--check", check)]

/-- The letters of the short names. -/
def letters : List (Char × Switch) := [('C', workspace), ('e', exceptions), ('k', kind)]

/-- Does the option have a value? -/
def hasValue : Switch → Bool
  | workspace | exceptions | kind | extension | lineLimit | format | maximum => true
  | tracked | untracked | update | showSuppressed | check => false

end Switch

/-! ### Commands -/

/-- The commands. -/
inductive Command where
  /-- Checks source files. -/
  | lint
  /-- Lists source files. -/
  | files
  /-- Lists modules. -/
  | modules
  /-- Lists libraries. -/
  | libraries
  /-- Writes aggregators. -/
  | aggregate
  /-- Lists stale records. -/
  | audit
deriving DecidableEq, Repr

namespace Command

/-- The commands with their names. -/
def names : List (Text × Command) := [
  ("lint", lint), ("files", files), ("modules", modules), ("libs", libraries),
  ("mk-all", aggregate), ("audit-exceptions", audit)]

/-- The options of a command. -/
def switches : Command → List Switch
  | lint =>
    [.workspace, .exceptions, .kind, .tracked, .untracked, .extension, .lineLimit, .update, .format,
      .showSuppressed, .maximum]
  | files | modules => [.workspace, .tracked, .untracked, .extension]
  | libraries => [.workspace]
  | aggregate => [.workspace, .check, .tracked, .untracked, .extension]
  | audit => [.workspace, .exceptions, .tracked, .untracked, .extension, .lineLimit]

/-- Can the command have so many arguments? -/
def takes : Command → (arguments : Nat) → Bool
  | lint, _ | aggregate, _ | audit, _ => true
  | files, n | modules, n => n == 1
  | libraries, n => n == 0

end Command

/-! ### Reading words -/

/-- An option with its value, which is empty if it has none. -/
abbrev Given := Switch × Text

/-- What an option word amounts to. -/
inductive Reading where
  /-- An option with all that belongs to it. -/
  | complete (given : Given)
  /-- An option whose value is the next word. -/
  | awaiting (switch : Switch)
  /-- No option of the command. -/
  | refused
deriving DecidableEq, Repr

/-- Does the word look like an option? A single dash does not. -/
def isOption (word : Text) : Bool := word.head? == some '-' && word.length != 1

/-- The long name in an option word and the value after the equals sign. -/
def cutValue (word : Text) : Text × Option Text :=
  match Text.cutAt? "=" word with
  | some (name, value) => (name, some value)
  | none => (word, none)

/-- What an option with a long name amounts to. -/
def readLong (command : Command) (word : Text) : Reading :=
  let (name, value) := cutValue word
  match Switch.longNames.lookup name with
  | none => .refused
  | some s =>
    if !command.switches.contains s then .refused
    else
      match s.hasValue, value with
      | true, some v => .complete (s, v)
      | true, none => .awaiting s
      | false, some _ => .refused
      | false, none => .complete (s, [])

/-- What an option with a short name amounts to. -/
def readShort (command : Command) (letter : Char) (rest : Text) : Reading :=
  match Switch.letters.lookup letter with
  | none => .refused
  | some s =>
    if !command.switches.contains s then .refused
    else if rest.isEmpty then .awaiting s
    else .complete (s, rest)

/-- What an option word amounts to. -/
def readOption (command : Command) (word : Text) : Reading :=
  match word with
  | '-' :: '-' :: _ => readLong command word
  | '-' :: c :: r => readShort command c r
  | _ => .refused

/-- The options among the words, in order, and the arguments, in order. -/
def readWords (command : Command) : List Text → Option (List Given × List Text)
  | [] => some ([], [])
  | word :: words =>
    if word = "--" then some ([], words)
    else if isOption word then
      match readOption command word with
      | .refused => none
      | .complete g => (readWords command words).map fun (gs, as) ↦ (g :: gs, as)
      | .awaiting s =>
        match words with
        | [] => none
        | v :: words => (readWords command words).map fun (gs, as) ↦ ((s, v) :: gs, as)
    else (readWords command words).map fun (gs, as) ↦ (gs, word :: as)

/-- Does the word ask for a detailed log? -/
def isVerbose (word : Text) : Bool :=
  word = "--verbose" ||
    match word with
    | '-' :: c :: r => (c :: r).all (· == 'v')
    | _ => false

/-- Whether a detailed log is asked for, and the words from the command on. -/
def readLeading : List Text → Option (Bool × List Text)
  | [] => some (false, [])
  | word :: words =>
    if word = "--" then some (false, words)
    else if isOption word then
      if isVerbose word then (readLeading words).map fun (_, rest) ↦ (true, rest) else none
    else some (false, word :: words)

/-- A command line, cut up. -/
structure Line where
  /-- Is a detailed log asked for? -/
  verbose : Bool
  /-- The command. -/
  command : Command
  /-- The options, in order. -/
  given : List Given
  /-- The arguments, in order. -/
  arguments : List Text

/-- Cuts up a command line. -/
def readLine (words : List Text) : Option Line :=
  match readLeading words with
  | some (verbose, name :: rest) =>
    match Command.names.lookup name with
    | some command =>
      (readWords command rest).map fun (given, arguments) ↦ ⟨verbose, command, given, arguments⟩
    | none => none
  | _ => none

end StyleLinter.CommandLine
