import Mathlib.Data.List.Nodup
import StyleLinter.Check.Checker
import StyleLinter.Proofs.Sequence

/-!
# What the checkers find

A finding is of a rule that its checker answers for, **on a line that is there**, and it says
something (`spec_of_mem_findings`). Two findings in a file differ in their line or in their rule, so
**no file has two findings with the same mark** (`nodup_marks`). Within a checker this holds since
each of its tests makes at most one finding of a rule on a line, and across checkers since no two of
them answer for the same rule.

A checker that is not active finds nothing that would be reported. So the findings of the active
checkers and those of all checkers have the same part that is reported, in the same order
(`filter_active`).
-/

namespace StyleLinter.Check

/-- What tells the findings in a file apart. -/
def Finding.mark (f : Finding) : Nat × Rule := (f.line, f.rule)

/-- Is this the number of one of so many lines? Lines are numbered from one, and where there are
none the first one is meant. -/
def IsLineOf (n count : Nat) : Prop := 1 ≤ n ∧ n ≤ max count 1

/-! ### Line by line -/

section EachLine

variable {test : Nat → Text → List Finding}

theorem exists_of_mem_eachLine {n : Nat} {lines : List Text} {f : Finding}
    (h : f ∈ eachLine test n lines) :
    ∃ m line, (n ≤ m ∧ m < n + lines.length) ∧ f ∈ test m line := by
  induction lines generalizing n with
  | nil => exact absurd h List.not_mem_nil
  | cons line lines ih =>
    rw [List.length_cons]
    rcases List.mem_append.mp h with h | h
    · exact ⟨n, line, by omega, h⟩
    · obtain ⟨m, line', hm, hf⟩ := ih h
      exact ⟨m, line', by omega, hf⟩

/-- A test is made on lines that are there. -/
theorem isLineOf_of_eachLine {m count : Nat} (h : 1 ≤ m ∧ m < 1 + count) : IsLineOf m count :=
  ⟨h.1, Nat.le_trans (by omega) (Nat.le_max_left count 1)⟩

/-- Does a test report the line that it is made on, and each rule once at most? -/
structure IsLocal (test : Nat → Text → List Finding) : Prop where
  line : ∀ m line, ∀ f ∈ test m line, f.line = m
  nodup : ∀ m line, ((test m line).map (·.mark)).Nodup

/-- **Tests that tell the findings on a line apart tell the findings in a file apart.** -/
theorem nodup_eachLine (htest : IsLocal test) (n : Nat) (lines : List Text) :
    ((eachLine test n lines).map (·.mark)).Nodup := by
  induction lines generalizing n with
  | nil => exact List.nodup_nil
  | cons line lines ih =>
    rw [eachLine, List.map_append, List.nodup_append]
    refine ⟨htest.nodup n line, ih (n + 1), ?_⟩
    intro a ha b hb
    obtain ⟨f, hf, rfl⟩ := List.mem_map.mp ha
    obtain ⟨g, hg, rfl⟩ := List.mem_map.mp hb
    obtain ⟨m, line', hm, hg⟩ := exists_of_mem_eachLine hg
    have hfl := htest.line n line f hf
    have hgl := htest.line m line' g hg
    intro he
    have : f.line = g.line := congrArg Prod.fst he
    omega

/-- **Findings come in the order of the lines** that the tests are made on. -/
theorem pairwise_eachLine (htest : IsLocal test) (n : Nat) (lines : List Text) :
    (eachLine test n lines).Pairwise fun f g ↦ f.line ≤ g.line := by
  induction lines generalizing n with
  | nil => exact .nil
  | cons line lines ih =>
    rw [eachLine, List.pairwise_append]
    refine ⟨List.pairwise_of_forall_mem_list fun f hf g hg ↦ ?_, ih (n + 1), fun f hf g hg ↦ ?_⟩
    · exact Nat.le_of_eq ((htest.line n line f hf).trans (htest.line n line g hg).symm)
    · obtain ⟨m, line', hm, hg⟩ := exists_of_mem_eachLine hg
      rw [htest.line n line f hf, htest.line m line' g hg]
      omega

end EachLine

/-! ### Checker by checker -/

/-- The line that deviates from a header is one of the lines at hand, or the last one before
them. -/
theorem Header.isLineOf_of_deviation? {tests : List (Text → Bool)} {n m : Nat} {lines : List Text}
    (hn : 1 ≤ n) (h : deviation? n tests lines = some m) : IsLineOf m (n - 1 + lines.length) := by
  induction tests generalizing n lines with
  | nil => exact absurd h nofun
  | cons test tests ih =>
    cases lines with
    | nil =>
      obtain rfl := Option.some.inj h
      exact ⟨Nat.le_max_right _ _, Nat.le_refl _⟩
    | cons line lines =>
      rw [deviation?] at h
      split at h
      · have hcount : n + 1 - 1 + lines.length = n - 1 + (line :: lines).length := by
          rw [List.length_cons]
          omega
        exact hcount ▸ ih (Nat.le_succ_of_le hn) h
      · obtain rfl := Option.some.inj h
        refine ⟨hn, Nat.le_trans ?_ (Nat.le_max_left _ _)⟩
        rw [List.length_cons]
        omega

/-- **Lines that pass all tests** are as many as the tests at least. -/
theorem Header.length_le_of_deviation? {tests : List (Text → Bool)} {n : Nat} {lines : List Text}
    (h : deviation? n tests lines = none) : tests.length ≤ lines.length := by
  induction tests generalizing n lines with
  | nil => exact Nat.zero_le _
  | cons test tests ih =>
    cases lines with
    | nil => exact absurd h nofun
    | cons line lines =>
      rw [deviation?] at h
      split at h
      · exact Nat.succ_le_succ (ih h)
      · exact absurd h nofun

/-- At most one thing is wrong with a header. -/
theorem Header.findings_eq (lines : List Text) :
    Header.findings lines = [] ∨ ∃ n, IsLineOf n lines.length ∧
      ∃ rule ∈ [Rule.header, .authors], Header.findings lines = [.plain n rule] := by
  have hcount : lines.length = (lines.map Text.dropEnding).length := (List.length_map ..).symm
  unfold Header.findings
  rw [hcount]
  generalize lines.map Text.dropEnding = text
  dsimp only
  split
  · next n hn =>
    have hline := Header.isLineOf_of_deviation? (Nat.le_refl 1) hn
    rw [Nat.sub_self, Nat.zero_add] at hline
    exact .inr ⟨n, hline, .header, by decide, rfl⟩
  · next hnone =>
    -- the first lines have passed the tests, so there are some
    have hlength : 4 ≤ text.length := Header.length_le_of_deviation? hnone
    have hline : ∀ {n}, 1 ≤ n → n ≤ text.length → IsLineOf n text.length := fun hn hle ↦
      ⟨hn, Nat.le_trans hle (Nat.le_max_left _ _)⟩
    split
    · exact .inr ⟨_, hline (by omega) (Nat.le_refl _), .header, by decide, rfl⟩
    · split
      · exact .inr ⟨_, hline (by omega) (Nat.le_refl _), .header, by decide, rfl⟩
      · split
        · exact .inr ⟨4, hline (by omega) hlength, .authors, by decide, rfl⟩
        · exact .inl rfl

/-- At most one thing is wrong with the documentation of a module. -/
theorem Documentation.findings_eq (lines : List Text) :
    Documentation.findings lines = [] ∨ ∃ n, IsLineOf n lines.length ∧
      Documentation.findings lines = [.plain n .documentation] := by
  have hcount : lines.length = (lines.map Text.trim).length := (List.length_map ..).symm
  unfold Documentation.findings
  rw [hcount]
  generalize lines.map Text.trim = text
  dsimp only
  split
  · next line rest hdrop =>
    -- the line is there, so its index is below the number of lines
    have hlength := congrArg List.length hdrop
    rw [List.length_drop, List.length_cons] at hlength
    split
    · exact .inl rfl
    · exact .inr ⟨_, ⟨by omega, Nat.le_trans (by omega) (Nat.le_max_left _ _)⟩, rfl⟩
  · exact .inr ⟨_, ⟨Nat.le_max_right _ _, Nat.le_refl _⟩, rfl⟩

namespace Checker

variable {config : Config} {lines : List Text} {f : Finding}

/-- **What a checker finds** is of a rule that it answers for, on a line that is there, and it says
something. -/
theorem spec_of_mem_findings {checker : Checker} (h : f ∈ checker.findings config lines) :
    f.rule ∈ checker.rules ∧ IsLineOf f.line lines.length ∧ f.message ≠ [] := by
  cases checker with
  | header =>
    rcases Header.findings_eq lines with he | ⟨n, hn, rule, hrule, he⟩ <;> rw [findings, he] at h
    · exact absurd h List.not_mem_nil
    · rw [List.mem_singleton.mp h]
      exact ⟨hrule, hn, rule.message_ne_nil⟩
  | documentation =>
    rcases Documentation.findings_eq lines with he | ⟨n, hn, he⟩ <;> rw [findings, he] at h
    · exact absurd h List.not_mem_nil
    · rw [List.mem_singleton.mp h]
      exact ⟨List.mem_singleton_self _, hn, Rule.message_ne_nil .documentation⟩
  | fileLength =>
    rw [findings, Check.fileLength, List.mem_ite_nil_right, List.mem_singleton] at h
    rw [h.2]
    exact ⟨List.mem_singleton_self _, ⟨Nat.le_refl 1, Nat.le_max_right _ _⟩, List.cons_ne_nil _ _⟩
  | lineLength =>
    obtain ⟨m, line, hm, hf⟩ := exists_of_mem_eachLine h
    rw [List.mem_ite_nil_right, List.mem_singleton] at hf
    rw [hf.2]
    exact ⟨List.mem_singleton_self _, isLineOf_of_eachLine hm, List.cons_ne_nil _ _⟩
  | lineEnds =>
    obtain ⟨m, line, hm, hf⟩ := exists_of_mem_eachLine h
    rw [List.mem_append, List.mem_ite_nil_right, List.mem_ite_nil_right, List.mem_singleton,
      List.mem_singleton] at hf
    have hline := isLineOf_of_eachLine hm
    rcases hf with ⟨-, rfl⟩ | ⟨-, rfl⟩
    · exact ⟨List.mem_cons_of_mem _ List.mem_cons_self, hline, Rule.message_ne_nil .lineEnding⟩
    · exact ⟨List.mem_cons_self, hline, Rule.message_ne_nil .trailingBlanks⟩
  | forbidden words =>
    obtain ⟨m, line, hm, hf⟩ := exists_of_mem_eachLine h
    split at hf
    · rw [List.mem_singleton.mp hf]
      exact ⟨List.mem_singleton_self _, isLineOf_of_eachLine hm, List.cons_ne_nil _ _⟩
    · exact absurd hf List.not_mem_nil

/-- **A checker answers for the rules of its findings.** -/
theorem rule_mem_of_mem_findings {checker : Checker} (h : f ∈ checker.findings config lines) :
    f.rule ∈ checker.rules :=
  (spec_of_mem_findings h).1

/-- **A checker makes one finding in a file at most, or it tests line after line.** -/
theorem findings_cases (checker : Checker) (config : Config) :
    (∀ lines, checker.findings config lines = [] ∨ ∃ f, checker.findings config lines = [f]) ∨
      ∃ test, IsLocal test ∧ ∀ lines, checker.findings config lines = eachLine test 1 lines := by
  cases checker with
  | header =>
    refine .inl fun lines ↦ (Header.findings_eq lines).imp_right ?_
    rintro ⟨n, -, rule, -, he⟩
    exact ⟨_, he⟩
  | documentation =>
    refine .inl fun lines ↦ (Documentation.findings_eq lines).imp_right ?_
    rintro ⟨n, -, he⟩
    exact ⟨_, he⟩
  | fileLength =>
    refine .inl fun lines ↦ ?_
    rw [findings, Check.fileLength]
    split
    · exact .inr ⟨_, rfl⟩
    · exact .inl rfl
  | lineLength =>
    refine .inr ⟨_, ⟨fun m line f hf ↦ ?_, fun m line ↦ ?_⟩, fun lines ↦ rfl⟩
    · rw [List.mem_ite_nil_right, List.mem_singleton] at hf
      rw [hf.2]
    · split
      · exact List.nodup_singleton _
      · exact List.nodup_nil
  | lineEnds =>
    refine .inr ⟨_, ⟨fun m line f hf ↦ ?_, fun m line ↦ ?_⟩, fun lines ↦ rfl⟩
    · rw [List.mem_append, List.mem_ite_nil_right, List.mem_ite_nil_right, List.mem_singleton,
        List.mem_singleton] at hf
      rcases hf with ⟨-, rfl⟩ | ⟨-, rfl⟩ <;> rfl
    · split <;> split <;> simp [Finding.mark, Finding.plain]
  | forbidden words =>
    refine .inr ⟨_, ⟨fun m line f hf ↦ ?_, fun m line ↦ ?_⟩, fun lines ↦ rfl⟩
    · split at hf
      · rw [List.mem_singleton.mp hf]
      · exact absurd hf List.not_mem_nil
    · split
      · exact List.nodup_singleton _
      · exact List.nodup_nil

/-- **A checker reports a rule at most once on a line.** -/
theorem nodup_findings (checker : Checker) (config : Config) (lines : List Text) :
    ((checker.findings config lines).map (·.mark)).Nodup := by
  rcases checker.findings_cases config with hone | ⟨test, htest, he⟩
  · rcases hone lines with he | ⟨f, he⟩ <;> rw [he]
    · exact List.nodup_nil
    · exact List.nodup_singleton _
  · rw [he]
    exact nodup_eachLine htest 1 lines

/-- **The findings of a checker come in the order of their lines.** -/
theorem pairwise_findings (checker : Checker) (config : Config) (lines : List Text) :
    (checker.findings config lines).Pairwise fun f g ↦ f.line ≤ g.line := by
  rcases checker.findings_cases config with hone | ⟨test, htest, he⟩
  · rcases hone lines with he | ⟨f, he⟩ <;> rw [he]
    · exact .nil
    · exact List.pairwise_singleton _ f
  · rw [he]
    exact pairwise_eachLine htest 1 lines

/-! ### All checkers together -/

/-- No two checkers answer for the same rule. -/
theorem pairwise_rules_all (config : Config) :
    (all config).Pairwise fun a b ↦ ∀ r ∈ a.rules, r ∉ b.rules := by
  simp [all, rules]

/-- **No file has two findings with the same mark.** -/
theorem nodup_marks (config : Config) (lines : List Text) :
    (((all config).flatMap (·.findings config lines)).map (·.mark)).Nodup := by
  rw [List.map_flatMap, List.nodup_flatMap]
  refine ⟨fun checker _ ↦ nodup_findings checker config lines, ?_⟩
  refine (pairwise_rules_all config).imp fun {a b} hab ↦ ?_
  intro m ha hb
  obtain ⟨f, hf, rfl⟩ := List.mem_map.mp ha
  obtain ⟨g, hg, he⟩ := List.mem_map.mp hb
  -- a common mark would have a rule that both checkers answer for
  have hrule : g.rule = f.rule := congrArg Prod.snd he
  exact hab _ (rule_mem_of_mem_findings hf) (hrule ▸ rule_mem_of_mem_findings hg)

theorem findings_forbidden_nil (config : Config) (lines : List Text) :
    (forbidden []).findings config lines = [] := by
  rw [List.eq_nil_iff_forall_not_mem]
  intro f hf
  obtain ⟨m, line, -, hf⟩ := exists_of_mem_eachLine hf
  simp [forbiddenOn?] at hf

/-- What a checker that is not active finds would not be reported. -/
theorem filter_findings_of_not_isActive {checker : Checker} (h : isActive config checker = false) :
    (checker.findings config lines).filter (config.reports ·.rule.tag) = [] := by
  rw [isActive, Bool.and_eq_false_iff] at h
  rcases h with h | h
  · rw [List.filter_eq_nil_iff]
    intro f hf
    rw [List.any_eq_false] at h
    exact h f.rule (rule_mem_of_mem_findings hf)
  · obtain rfl : checker = forbidden [] := by simpa using h
    rw [findings_forbidden_nil]
    rfl

/-- **Whether all checkers work or the active ones only, the same is reported**, in the same
order. -/
theorem filter_active (config : Config) (lines : List Text) :
    ((active config).flatMap (·.findings config lines)).filter (config.reports ·.rule.tag) =
      ((all config).flatMap (·.findings config lines)).filter (config.reports ·.rule.tag) := by
  unfold active
  induction all config with
  | nil => rfl
  | cons checker checkers ih =>
    rw [List.flatMap_cons, List.filter_append, ← ih]
    cases h : isActive config checker with
    | true => rw [List.filter_cons_of_pos h, List.flatMap_cons, List.filter_append]
    | false =>
      rw [List.filter_cons_of_neg (by rw [h]; exact Bool.false_ne_true),
        filter_findings_of_not_isActive h, List.nil_append]

/-- **For a rule that is reported there is an active checker**, but for the rule of the strings that
no line of code may begin with, if there are none. -/
theorem exists_active_of_reports {rule : Rule} (h : config.reports rule.tag = true)
    (hwords : rule = .forbidden → config.forbidden ≠ []) :
    ∃ checker ∈ active config, rule ∈ checker.rules := by
  have hall : ∃ checker ∈ all config, rule ∈ checker.rules ∧ checker ≠ forbidden [] := by
    cases rule with
    | header => exact ⟨header, by simp [all], by decide, nofun⟩
    | authors => exact ⟨header, by simp [all], by decide, nofun⟩
    | documentation => exact ⟨documentation, by simp [all], by decide, nofun⟩
    | lineLength => exact ⟨lineLength, by simp [all], by decide, nofun⟩
    | fileLength => exact ⟨fileLength, by simp [all], by decide, nofun⟩
    | trailingBlanks => exact ⟨lineEnds, by simp [all], by decide, nofun⟩
    | lineEnding => exact ⟨lineEnds, by simp [all], by decide, nofun⟩
    | forbidden =>
      exact ⟨forbidden config.forbidden, by simp [all], List.mem_singleton_self _,
        fun he ↦ hwords rfl (forbidden.inj he)⟩
  obtain ⟨checker, hmem, hrule, hne⟩ := hall
  refine ⟨checker, List.mem_filter.mpr ⟨hmem, ?_⟩, hrule⟩
  rw [isActive, Bool.and_eq_true, List.any_eq_true]
  exact ⟨⟨rule, hrule, h⟩, by simpa using hne⟩

end Checker

end StyleLinter.Check
