import StyleLinter.Proofs.Check.Findings
import StyleLinter.Proofs.Entry

/-!
# Findings make violations

A finding that is on a line, counted from one, and that says something is a violation in any file
with a relative path (`Finding.IsSound.exists_inFile`). **Whatever a checker finds is of this sort**
(`Checker.isSound_of_mem_findings`), so that the making of violations fails in no such file
(`exists_violations`), whichever checkers work on it. In a file with an absolute path it fails as
soon as there is something to find (`violations_eq_error_iff`).
-/

namespace StyleLinter.Check

variable {config : Config} {lines : List Text} {f : Finding}

/-- Is the finding on a line, and does it say something? -/
structure Finding.IsSound (f : Finding) : Prop where
  /-- Lines are numbered from one. -/
  line_pos : 0 < f.line
  /-- It says something. -/
  message_ne_nil : f.message ≠ []

/-- **What a checker finds is on a line and says something.** -/
theorem Checker.isSound_of_mem_findings {checker : Checker}
    (h : f ∈ checker.findings config lines) : f.IsSound :=
  ⟨(spec_of_mem_findings h).2.1.1, (spec_of_mem_findings h).2.2⟩

/-! ### Violations -/

/-- **A finding in a file** has the path of the file and otherwise what the finding has. -/
theorem spec_of_inFile {path : Text} {v : Violation} (h : f.inFile path = .ok v) :
    v.key.path = path ∧ v.key.line = f.line ∧ v.key.kind = f.rule.tag ∧ v.message = f.message := by
  obtain ⟨hpath, hline, hkind, hmessage⟩ :=
    ExceptionList.ofParts_eq_ok_iff.mp (Violation.ofParts_eq_ok_iff.mp h)
  exact ⟨hpath, Int.ofNat_inj.mp hline, hkind, hmessage⟩

/-- A finding that is on a line and says something is a violation in a file. -/
theorem Finding.IsSound.exists_inFile (hf : f.IsSound) {path : Text} (hpath : path ≠ [])
    (hrel : path.head? ≠ some '/') : ∃ v, f.inFile path = .ok v := by
  have hline : 1 ≤ (f.line : Int) := Int.ofNat_le.mpr hf.line_pos
  exact Violation.exists_ofParts_iff.mpr
    ⟨Record.exists_ofParts_iff.mpr ⟨hpath, hrel, hline, f.rule.isTag_tag⟩, hf.message_ne_nil⟩

/-- **What checkers find in a file with a relative path are violations.** -/
theorem exists_violations (checkers : List Checker) (config : Config) {path : Text}
    (hpath : path ≠ []) (hrel : path.head? ≠ some '/') (lines : List Text) :
    ∃ vs, violations checkers config path lines = .ok vs := by
  refine exists_mapM fun f hf ↦ ?_
  obtain ⟨checker, -, hf⟩ := List.mem_flatMap.mp hf
  exact (Checker.isSound_of_mem_findings hf).exists_inFile hpath hrel

/-- No finding is a violation in a file with an absolute path. -/
theorem Finding.inFile_of_absolute (f : Finding) {path : Text} (habsolute : path.head? = some '/') :
    f.inFile path = .error (.absolutePath path) := by
  have hpath : path ≠ [] := by
    rintro rfl
    exact absurd habsolute nofun
  rw [inFile, Violation.ofParts, Key.ofParts, dif_neg hpath, dif_pos habsolute]

/-- **Findings fail to be violations in files with absolute paths only**, and there all of them
do. -/
theorem violations_eq_error_iff {checkers : List Checker} {path : Text} (hpath : path ≠ [])
    {i : Invalid} : violations checkers config path lines = .error i ↔
      path.head? = some '/' ∧ (∃ checker ∈ checkers, checker.findings config lines ≠ []) ∧
        i = .absolutePath path := by
  constructor
  · intro h
    by_cases habsolute : path.head? = some '/'
    · obtain ⟨_, f, _, hfindings, -, hf⟩ := mapM_eq_error_iff.mp h
      have hmem : f ∈ checkers.flatMap (·.findings config lines) :=
        hfindings ▸ List.mem_append_right _ List.mem_cons_self
      obtain ⟨checker, hchecker, hmem⟩ := List.mem_flatMap.mp hmem
      rw [f.inFile_of_absolute habsolute] at hf
      exact ⟨habsolute, ⟨checker, hchecker, List.ne_nil_of_mem hmem⟩, (Except.error.inj hf).symm⟩
    · obtain ⟨vs, hvs⟩ := exists_violations checkers config hpath habsolute lines
      exact absurd (hvs.symm.trans h) nofun
  · rintro ⟨habsolute, ⟨checker, hchecker, hne⟩, rfl⟩
    obtain ⟨f, hf⟩ := List.exists_mem_of_ne_nil _ hne
    have hmem : f ∈ checkers.flatMap (·.findings config lines) :=
      List.mem_flatMap.mpr ⟨checker, hchecker, hf⟩
    obtain ⟨g, rest, hfindings⟩ := List.exists_cons_of_ne_nil (List.ne_nil_of_mem hmem)
    -- the first finding is one that fails
    exact mapM_eq_error_iff.mpr ⟨[], g, rest, hfindings, nofun, g.inFile_of_absolute habsolute⟩

end StyleLinter.Check
