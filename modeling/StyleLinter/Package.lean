import StyleLinter.Invalid
import StyleLinter.Config

/-!
# Packages and their libraries

The build file of a workspace declares a package and its libraries. The roots that a run works on by
default are these libraries, in the order of their declarations, with one exception: the **primary
project** declares libraries that hold no library source, which are left out, and has one library
that it does not declare, which is added at the end.
-/

namespace StyleLinter

/-- What a build file declares. -/
structure Package where
  /-- The name of the package. -/
  name : Text
  /-- The names of its libraries, in order. -/
  libraries : List Text
  name_ne_nil : name ≠ []
  libraries_ne_nil : ∀ l ∈ libraries, l ≠ []

/-- The package with the given name and libraries. -/
def Package.ofParts (name : Text) (libraries : List Text) : Except Invalid Package :=
  if hn : name = [] then .error .noPackageName
  else if hl : ∀ l ∈ libraries, l ≠ [] then .ok ⟨name, libraries, hn, hl⟩
  else .error .noLibraryName

/-- How the libraries of the primary project are adjusted. -/
structure Primary where
  /-- The name of the primary project. -/
  name : Text
  /-- The libraries that are left out, in increasing order. -/
  excluded : List Text
  /-- The library that is added. -/
  extra : Text
  name_ne_nil : name ≠ []
  extra_ne_nil : extra ≠ []
  extra_kept : extra ∉ excluded

/-- An adjustment before it is checked. -/
structure Primary.Draft where
  /-- The name of the primary project. -/
  name : Text := "mathlib"
  /-- The libraries that are left out. -/
  excluded : List Text := ["Cache", "LongestPole"]
  /-- The library that is added. -/
  extra : Text := "Mathlib/Tactic"

namespace Primary

/-- The adjustment of a draft. -/
def Draft.check (d : Draft) : Except Invalid Primary :=
  if hn : d.name = [] then .error .noPrimaryName
  else if he : d.extra = [] then .error .noExtraName
  else if hx : d.extra ∈ d.excluded then .error (.extraExcluded d.extra)
  else .ok ⟨d.name, Config.inOrder d.excluded, d.extra, hn, he, mt Config.mem_inOrder.mp hx⟩

/-- The adjustment that a run makes unless it is told otherwise. -/
def default : Primary where
  name := "mathlib"
  excluded := ["Cache", "LongestPole"]
  extra := "Mathlib/Tactic"
  name_ne_nil := by decide
  extra_ne_nil := by decide
  extra_kept := by decide

/-- The libraries to work on. -/
def libraries (s : Primary) (p : Package) : List Text :=
  if p.name ≠ s.name then p.libraries
  else
    let kept := p.libraries.filter fun l ↦ !s.excluded.contains l
    if kept.contains s.extra then kept else kept ++ [s.extra]

end Primary

end StyleLinter
