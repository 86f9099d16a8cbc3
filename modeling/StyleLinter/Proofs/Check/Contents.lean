import StyleLinter.Proofs.Check.Findings
import StyleLinter.Proofs.Text.Endings

/-!
# What lines say, and how they end

Five of the six checkers never see how a line ends. They look at what the line says, or at the
trimmed line, or they count lines; and the address that lets a long line pass has no line ending in
it. The sixth reports blanks before the ending, where it sees what the line says, and carriage
returns. So **findings of other rules depend on what the lines say alone**
(`filter_findings_of_contents`), and the carriage returns are reported where they are
(`filter_lineEnding_findings`).

A text whose line feeds get carriage returns has lines that say the same. What is found in it is
what was found before, and one finding for each line that a line feed ends
(`filter_findings_withReturns`, `filter_lineEnding_withReturns`).
-/

namespace StyleLinter.Check

variable {config : Config} {checker : Checker} {lines lines' : List Text} {text : Text}

/-! ### Line by line -/

section EachLine

variable {test : Nat → Text → List Finding}

theorem filter_eachLine (p : Finding → Bool) (n : Nat) (lines : List Text) :
    (eachLine test n lines).filter p = eachLine (fun n line ↦ (test n line).filter p) n lines := by
  induction lines generalizing n with
  | nil => rfl
  | cons line lines ih => rw [eachLine, eachLine, List.filter_append, ih]

/-- A test that picks lines finds something **on each line that it picks**. -/
theorem eachLine_of_picks (picks : Text → Bool) (finding : Nat → Finding) (n : Nat)
    (lines : List Text) :
    eachLine (fun n line ↦ if picks line then [finding n] else []) n lines =
      (((lines.zipIdx n).filter fun l ↦ picks l.1).map (·.2)).map finding := by
  induction lines generalizing n with
  | nil => rfl
  | cons line lines ih =>
    rw [eachLine, ih, List.zipIdx_cons, List.filter_cons]
    split <;> rfl

/-- A test that looks at what lines say finds the same **in lines that say the same**. -/
theorem eachLine_of_contents
    (htest : ∀ n line line', Text.dropEnding line = Text.dropEnding line' → test n line = test n line')
    (h : lines.map Text.dropEnding = lines'.map Text.dropEnding) (n : Nat) :
    eachLine test n lines = eachLine test n lines' := by
  induction lines generalizing n lines' with
  | nil =>
    obtain rfl := List.map_eq_nil_iff.mp h.symm
    rfl
  | cons line lines ih =>
    obtain ⟨line', rest, rfl, hline, hrest⟩ := List.map_eq_cons_iff.mp h.symm
    rw [eachLine, eachLine, htest n line line' hline.symm, ih hrest.symm]

end EachLine

/-! ### Checker by checker -/

theorem trim_of_contents (h : lines.map Text.dropEnding = lines'.map Text.dropEnding) :
    lines.map Text.trim = lines'.map Text.trim := by
  have htrim (ls : List Text) : ls.map Text.trim = (ls.map Text.dropEnding).map Text.trim := by
    rw [List.map_map]
    exact List.map_congr_left fun line _ ↦ (Text.trim_dropEnding line).symm
  rw [htrim lines, h, ← htrim]

theorem length_of_contents (h : lines.map Text.dropEnding = lines'.map Text.dropEnding) :
    lines.length = lines'.length := by
  simpa only [List.length_map] using congrArg List.length h

/-- **Findings of other rules than the one for carriage returns** are the same in lines that say the
same. -/
theorem filter_findings_of_contents (checker : Checker) (config : Config)
    (h : lines.map Text.dropEnding = lines'.map Text.dropEnding) :
    (checker.findings config lines).filter (·.rule != .lineEnding) =
      (checker.findings config lines').filter (·.rule != .lineEnding) := by
  cases checker with
  | header => rw [Checker.findings, Checker.findings, Header.findings, Header.findings, h]
  | documentation =>
    rw [Checker.findings, Checker.findings, Documentation.findings, Documentation.findings,
      trim_of_contents h]
  | fileLength =>
    rw [Checker.findings, Checker.findings, Check.fileLength, Check.fileLength, length_of_contents h]
  | lineLength =>
    refine congrArg (List.filter _) (eachLine_of_contents (fun n line line' he ↦ ?_) h 1)
    -- the address has no line ending in it, so it stands in what the line says
    have haddress : Text.occursIn "http" line = Text.occursIn "http" line' := by
      rw [← Text.occursIn_dropEnding (by decide) line, he, Text.occursIn_dropEnding (by decide)]
    rw [he, haddress]
  | lineEnds =>
    show (eachLine _ 1 lines).filter _ = (eachLine _ 1 lines').filter _
    rw [filter_eachLine, filter_eachLine]
    refine eachLine_of_contents (fun n line line' he ↦ ?_) h 1
    have hblanks : hasTrailingBlanks line = hasTrailingBlanks line' := by
      rw [hasTrailingBlanks, hasTrailingBlanks, he]
    have hnone (l : Text) : List.filter (fun f : Finding ↦ f.rule != .lineEnding)
        (if Text.endsWith l "\r\n" then [.plain n .lineEnding] else []) = [] := by
      split <;> rfl
    rw [List.filter_append, List.filter_append, hnone, hnone, hblanks]
  | forbidden words =>
    refine congrArg (List.filter _) (eachLine_of_contents (fun n line line' he ↦ ?_) h 1)
    have hword : forbiddenOn? words line = forbiddenOn? words line' := by
      rw [forbiddenOn?, forbiddenOn?, he]
    rw [hword]

/-! ### All checkers together -/

theorem filter_lineEnding_of_not_mem_rules (h : Rule.lineEnding ∉ checker.rules) :
    (checker.findings config lines).filter (·.rule == .lineEnding) = [] := by
  refine List.filter_eq_nil_iff.mpr fun f hf he ↦ h ?_
  rw [← beq_iff_eq.mp he]
  exact Checker.rule_mem_of_mem_findings hf

/-- **Carriage returns are reported where they are**: on each line that ends with one and a line
feed. -/
theorem Checker.filter_findings_lineEnds (config : Config) (lines : List Text) :
    (lineEnds.findings config lines).filter (·.rule == .lineEnding) =
      (((lines.zipIdx 1).filter fun l ↦ Text.endsWith l.1 "\r\n").map (·.2)).map
        (.plain · .lineEnding) := by
  have htest (n : Nat) (line : Text) :
      List.filter (fun f : Finding ↦ f.rule == .lineEnding)
        ((if Text.endsWith line "\r\n" then [.plain n .lineEnding] else []) ++
          if hasTrailingBlanks line then [.plain n .trailingBlanks] else []) =
        if Text.endsWith line "\r\n" then [.plain n .lineEnding] else [] := by
    split <;> split <;> rfl
  show (eachLine _ 1 lines).filter _ = _
  rw [filter_eachLine]
  simp only [htest]
  exact eachLine_of_picks (Text.endsWith · "\r\n") (.plain · .lineEnding) 1 lines

/-- **No other checker reports carriage returns**, so this is what all of them together find. -/
theorem filter_lineEnding_findings (config : Config) (lines : List Text) :
    ((Checker.all config).flatMap (·.findings config lines)).filter (·.rule == .lineEnding) =
      (((lines.zipIdx 1).filter fun l ↦ Text.endsWith l.1 "\r\n").map (·.2)).map
        (.plain · .lineEnding) := by
  rw [List.filter_flatMap, Checker.all, List.flatMap_cons, List.flatMap_cons, List.flatMap_cons,
    List.flatMap_cons, List.flatMap_cons, List.flatMap_singleton,
    filter_lineEnding_of_not_mem_rules (by decide), filter_lineEnding_of_not_mem_rules (by decide),
    filter_lineEnding_of_not_mem_rules (by decide), filter_lineEnding_of_not_mem_rules (by decide),
    Checker.filter_findings_lineEnds, filter_lineEnding_of_not_mem_rules (by simp [Checker.rules])]
  simp only [List.nil_append, List.append_nil]

/-! ### Line feeds with carriage returns -/

/-- **One finding for each line that a line feed ends**, of the rule for carriage returns. -/
theorem filter_lineEnding_withReturns (config : Config) (h : '\r' ∉ text) :
    ((Checker.all config).flatMap (·.findings config
      (Text.sourceLines (Text.withReturns text)))).filter (·.rule == .lineEnding) =
        (Text.endedLines text).map (.plain · .lineEnding) := by
  rw [filter_lineEnding_findings, Text.endedLines_eq h]

/-- A text without carriage returns has no finding of the rule for them. -/
theorem filter_findings_sourceLines (config : Config) (h : '\r' ∉ text) :
    ((Checker.all config).flatMap (·.findings config (Text.sourceLines text))).filter
      (·.rule != .lineEnding) =
        (Checker.all config).flatMap (·.findings config (Text.sourceLines text)) := by
  have hnone : ((Text.sourceLines text).zipIdx 1).filter (fun l ↦ Text.endsWith l.1 "\r\n") = [] :=
    List.filter_eq_nil_iff.mpr fun l hl ↦ Bool.eq_false_iff.mp
      (Text.isPlainLine_of_mem_sourceLines h l.1 (List.fst_mem_of_mem_zipIdx hl)).not_endsWith
  have hfindings := filter_lineEnding_findings config (Text.sourceLines text)
  rw [hnone, List.map_nil, List.map_nil, List.filter_eq_nil_iff] at hfindings
  exact List.filter_eq_self.mpr fun f hf ↦ by simpa using hfindings f hf

/-- **The other findings are what was found before.** -/
theorem filter_findings_withReturns (config : Config) (h : '\r' ∉ text) :
    ((Checker.all config).flatMap (·.findings config
      (Text.sourceLines (Text.withReturns text)))).filter (·.rule != .lineEnding) =
        (Checker.all config).flatMap (·.findings config (Text.sourceLines text)) := by
  rw [← filter_findings_sourceLines config h, List.filter_flatMap, List.filter_flatMap]
  exact List.flatMap_congr fun checker _ ↦
    filter_findings_of_contents checker config (Text.contents_withReturns h)

end StyleLinter.Check
