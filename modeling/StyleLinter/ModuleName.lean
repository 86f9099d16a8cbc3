import StyleLinter.Invalid
import StyleLinter.Path

/-!
# Names of modules

A module is named after its file: the parts of the path, with the extension taken off, are joined by
dots. `ofPath` and `toPath` are inverse to each other as long as no part has a dot of its own.
-/

namespace StyleLinter.ModuleName

/-- The name of the module in a file. -/
def ofPath (path : Path) (extension : Text) : Except Invalid Text :=
  let t := path.toText
  if Text.endsWith t extension && t != extension then
    let stem := if extension.isEmpty then [] else t.take (t.length - extension.length)
    .ok (Text.joinWith "." (Path.ofText stem).allParts)
  else .error (.notModulePath extension t)

/-- The file of a module. -/
def toPath (name extension : Text) : Except Invalid Path :=
  let parts := Text.pieces '.' name
  if parts.contains [] then .error (.malformedName name)
  else
    .ok ((parts.dropLast ++ [parts.getLastD [] ++ extension]).foldl
      (fun p part ↦ p / Path.ofText part) Path.here)

end StyleLinter.ModuleName
