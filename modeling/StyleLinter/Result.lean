import StyleLinter.Entry

/-!
# Results of a run

A run over files ends with the findings that are new, the findings that the registry exempts, and
the number of files. It passes if nothing is new.
-/

namespace StyleLinter

/-- What a run over files ends with. -/
structure Result where
  /-- The findings that are not exempt. -/
  new : List Violation
  /-- The findings that are exempt. -/
  suppressed : List Violation
  /-- The number of files. -/
  files : Nat
deriving DecidableEq

namespace Result

/-- The result of a run over no files. -/
def empty : Result := ⟨[], [], 0⟩

/-- A result with the given parts. -/
def ofParts (new suppressed : List Violation) (files : Int) : Except Invalid Result :=
  if files < 0 then .error (.negativeCount files) else .ok ⟨new, suppressed, files.toNat⟩

/-- Is nothing new? -/
def passed (r : Result) : Bool := r.new.isEmpty

/-- All findings, the new ones first. -/
def all (r : Result) : List Violation := r.new ++ r.suppressed

end Result

end StyleLinter
