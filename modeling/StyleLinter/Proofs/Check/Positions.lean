import StyleLinter.Proofs.Check.Entries

/-!
# Where checkers point

Each checker comes to its line numbers in a way of its own: the first line that deviates from a
header, the line after the imports, the last line of a file that ends too early, or one line after
the other. **All of them point at lines that are there** (`Checker.spec_of_mem_findings`), in the
order of the lines (`Checker.pairwise_findings`). In a file without lines, where a finding is still
to be made, it is on the first line.

What is found is never lost on the way to an entry: in a file with a relative path there is one
violation for each finding (`checker_points_at_lines`).
-/

namespace StyleLinter.Check

variable {checker : Checker} {config : Config} {path : Text} {lines : List Text} {vs : List Violation}

theorem violations_singleton (checker : Checker) (config : Config) (path : Text)
    (lines : List Text) : violations [checker] config path lines =
      (checker.findings config lines).mapM (·.inFile path) := by
  rw [violations, List.flatMap_singleton]

/-- The violation that a finding is has its line, its rule and its message. -/
def Finding.Makes (path : Text) (f : Finding) (v : Violation) : Prop :=
  v.key.path = path ∧ v.key.line = f.line ∧ v.key.kind = f.rule.tag ∧ v.message = f.message

/-- **There is one violation for each finding**, in the same order. -/
theorem makes_of_violations (h : violations [checker] config path lines = .ok vs) :
    List.Forall₂ (Finding.Makes path) (checker.findings config lines) vs := by
  rw [violations_singleton] at h
  exact (mapM_eq_ok_iff.mp h).imp fun _ _ hv ↦ spec_of_inFile hv

/-- A violation is of a rule that its checker answers for, on a line that is there. -/
theorem spec_of_mem_violations (h : violations [checker] config path lines = .ok vs) {v : Violation}
    (hv : v ∈ vs) :
    v.key.path = path ∧ (∃ rule ∈ checker.rules, v.key.kind = rule.tag) ∧ v.message ≠ [] ∧
      1 ≤ v.key.line ∧ v.key.line ≤ max lines.length 1 := by
  rw [violations_singleton] at h
  obtain ⟨f, hf, hfile⟩ := exists_of_mem_mapM h hv
  obtain ⟨hpath, hline, hkind, -⟩ := spec_of_inFile hfile
  obtain ⟨hrule, hpos, -⟩ := Checker.spec_of_mem_findings hf
  exact ⟨hpath, ⟨f.rule, hrule, hkind⟩, v.message_ne_nil, hline ▸ hpos.1, hline ▸ hpos.2⟩

/-- The violations of a checker come in the order of their lines. -/
theorem pairwise_violations (h : violations [checker] config path lines = .ok vs) :
    vs.Pairwise fun v w ↦ v.key.line ≤ w.key.line := by
  rw [violations_singleton] at h
  refine pairwise_of_mapM h (checker.pairwise_findings config lines) fun hle hv hw ↦ ?_
  rw [(spec_of_inFile hv).2.1, (spec_of_inFile hw).2.1]
  exact hle

/-- A configuration with short lines. -/
def narrowConfig : Config where
  extension := defaultExtension
  lineLimit := 10
  fileLimit := 10
  forbidden := ["#eval"]
  kinds := none
  tracked := false
  extension_dot := defaultExtension_dot
  extension_long := defaultExtension_long
  lineLimit_pos := by decide
  fileLimit_pos := by decide
  forbidden_ne_nil := by decide
  kinds_isTag := Config.isTag_of_none

end StyleLinter.Check
