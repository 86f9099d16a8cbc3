import StyleLinter.Text.Numeral
import StyleLinter.Text.Quoted

/-!
# Invalid arguments

Values are checked where they are made, so that everything that exists is well formed. This module
lists the ways in which a value can be refused, each with what the message needs, and `message`
words them.
-/

namespace StyleLinter

/-- Why a value is refused. -/
inductive Invalid where
  /-- An entry names no file. -/
  | emptyPath
  /-- An entry names a file by an absolute path. -/
  | absolutePath (path : Text)
  /-- Lines are numbered from one. -/
  | lineNotPositive (line : Int)
  /-- The kind of an entry is no tag. -/
  | malformedKind (kind : Text)
  /-- A violation says nothing. -/
  | emptyMessage
  /-- A numeral has more digits than are read. -/
  | numeralTooLong (digits : Nat)
  /-- A number has more digits than are written. -/
  | numberTooLong
  /-- An extension is a dot and something after it. -/
  | extension (extension : Text)
  /-- The limit on the length of lines is not positive. -/
  | lineLimit (limit : Int)
  /-- The limit on the length of files is not positive. -/
  | fileLimit (limit : Int)
  /-- One of the forbidden strings is empty. -/
  | emptyForbidden
  /-- Some of the kinds to report are no tags. -/
  | malformedKinds (kinds : List Text)
  /-- Nothing is forbidden. -/
  | nothingForbidden
  /-- The primary project has no name. -/
  | noPrimaryName
  /-- The extra library has no name. -/
  | noExtraName
  /-- The extra library is excluded. -/
  | extraExcluded (extra : Text)
  /-- The package has no name. -/
  | noPackageName
  /-- A library has no name. -/
  | noLibraryName
  /-- A number of files is negative. -/
  | negativeCount (count : Int)
  /-- A largest number of rows is negative. -/
  | negativeMaximum (maximum : Int)
  /-- The screen is too narrow for a report. -/
  | tooNarrow (width : Int)
  /-- A path does not lead to a module. -/
  | notModulePath (extension path : Text)
  /-- A module name has an empty part. -/
  | malformedName (name : Text)
  /-- A failure without a reason. -/
  | noReason
  /-- A failure on a list without a name. -/
  | noSource
  /-- A failure on a line that is not positive. -/
  | failureLine (line : Int)
  /-- A failure on a line without a reason. -/
  | noLineReason
  /-- A failure of no command. -/
  | noCommand
  /-- A path with a NUL character. -/
  | nulInPath
  /-- A path with a NUL character, given to the named operation. -/
  | nulGivenTo (operation : Text)
deriving DecidableEq, Repr

namespace Invalid

/-- The limit on the digits of numbers, in words. -/
def conversionLimit : Text :=
  "Exceeds the limit (" ++ Text.ofNat Text.digitLimit ++ " digits) for integer string conversion"

/-- How the limit can be raised. -/
def conversionAdvice : Text := "; use sys.set_int_max_str_digits() to increase the limit"

/-- The wording of a refusal. -/
def message : Invalid → Text
  | emptyPath => "file_path must not be empty"
  | absolutePath p => "file_path must be relative, got " ++ Text.quoted p
  | lineNotPositive n => "line must be > 0, got " ++ Text.ofInt n
  | malformedKind k => "kind must match [A-Z][A-Z0-9_]*, got " ++ Text.quoted k
  | emptyMessage => "message must not be empty"
  | numeralTooLong n =>
    conversionLimit ++ ": value has " ++ Text.ofNat n ++ " digits" ++ conversionAdvice
  | numberTooLong => conversionLimit ++ conversionAdvice
  | extension e => "extension must look like '.ext', got " ++ Text.quoted e
  | lineLimit n => "max_line_length must be >= 1, got " ++ Text.ofInt n
  | fileLimit n => "max_file_lines must be >= 1, got " ++ Text.ofInt n
  | emptyForbidden => "forbidden_strings must not contain empty strings"
  | malformedKinds ks => "kinds contains malformed rule kinds: " ++ Text.quotedList ks
  | nothingForbidden => "forbidden must not be empty"
  | noPrimaryName => "primary_name must not be empty"
  | noExtraName => "extra must not be empty"
  | extraExcluded e => "extra " ++ Text.quoted e ++ " must not be excluded"
  | noPackageName => "name must not be empty"
  | noLibraryName => "library names must not be empty"
  | negativeCount n => "files_checked must be >= 0, got " ++ Text.ofInt n
  | negativeMaximum n => "max_violations must be >= 0, got " ++ Text.ofInt n
  | tooNarrow n => "width must be >= 40, got " ++ Text.ofInt n
  | notModulePath e p => "path must end with " ++ Text.quoted e ++ ": " ++ p
  | malformedName n => "invalid module name: " ++ Text.quoted n
  | noReason => "reason must be non-empty string"
  | noSource => "source must not be empty"
  | failureLine n => "line_no must be > 0, got " ++ Text.ofInt n
  | noLineReason => "reason must not be empty"
  | noCommand => "command must not be empty"
  | nulInPath => "embedded null byte"
  | nulGivenTo op => op ++ ": embedded null character in path"

end Invalid

end StyleLinter
