import StyleLinter.Attempt
import StyleLinter.Console.Markup
import StyleLinter.Console.Wrap

/-!
# What goes to the second stream

The log, and the messages for people, go to a stream of their own, which is a screen of `width`
cells. A log entry is its level and its message, whose further lines are set in below the first; a
long message is broken. Fatal errors are marked-up text that is not broken. No line ends with a
space.
-/

namespace StyleLinter.CommandLine

open Console

/-- The cells of the screen. -/
def width : Nat := 1000

/-- The cells of a level. -/
def levelWidth : Nat := 8

/-- The lines, each with its ending. -/
def linesText (lines : List Text) : Text := lines.flatMap fun l ↦ trimSpaces l ++ ['\n']

/-- A log entry. -/
def logEntry (level : Level) (message : Text) : Text :=
  let margin := List.replicate (levelWidth + 1) ' '
  match paragraph (width - levelWidth - 1) (Markup.visible message) with
  | [] => []
  | first :: others =>
    linesText ((Text.padEnd levelWidth level.name ++ ' ' :: first) :: others.map (margin ++ ·))

/-- Is an entry of this level written? -/
def Level.written (verbose : Bool) : Level → Bool
  | .warning => true
  | .debug | .info => verbose

/-- The log of the notes. -/
def log (verbose : Bool) (notes : List Note) : Text :=
  (notes.filterMap Note.entry?).flatMap fun (level, message) ↦
    if Level.written verbose level then logEntry level message else []

/-- A marked-up message, broken into lines. -/
def announcement (markup : Text) : Except Failure Text :=
  ((Markup.plain? markup).map fun t ↦ linesText (paragraph width t)).mapError .markup

/-- The message about a fatal failure. -/
def fatal (f : Failure) : Except Failure Text :=
  ((Markup.plain? ("[bold red]error:[/bold red] " ++ Markup.escape f.message)).map fun t ↦
    linesText (unbroken width t)).mapError .markup

end StyleLinter.CommandLine
