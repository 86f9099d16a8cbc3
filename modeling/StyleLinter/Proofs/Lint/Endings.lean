import StyleLinter.Proofs.Check.Contents
import StyleLinter.Proofs.Check.Positions
import StyleLinter.Proofs.Lint.Selection
import StyleLinter.Proofs.Utf8

/-!
# Line feeds with carriage returns

A file is written anew with a carriage return before every line feed. **A run finds in it what it
found before, and one thing more for each line that a line feed ends**
(`carriage_returns_add_one_kind`): what was new is new, what was exempt is exempt, in the same
order, and all that is added is of the kind for carriage returns. So a run that does not report this
kind notices nothing.

The bytes of the file are another text, which may be read in other chunks; that it is read to
its end is `Utf8.decodeSource_encode`. That findings of other kinds stay is a matter of the checkers
(`Check.filter_findings_withReturns`), and it goes over to violations since the kind of a violation
is the tag of its rule.
-/

namespace StyleLinter

open Check (Checker Finding)

/-- The part of a result that is not of the kind. -/
def Result.without (kind : Text) (r : Result) : Result where
  new := r.new.filter (·.key.kind != kind)
  suppressed := r.suppressed.filter (·.key.kind != kind)
  files := r.files

namespace Lint

variable {run : Lint} {host host' : Host} {path : Path} {text : Text} {vs : List Violation}

/-- **The lines of a file that holds a text** are those of the text. -/
theorem readLines_of_read (h : host.disk.read path = .ok (Utf8.encode text)) :
    readLines host path = .ok (Text.sourceLines text) := by
  rw [readLines, h]
  dsimp only
  rw [Utf8.decodeSource_encode]

/-! ### One file -/

/-- A violation is of the kind of a rule exactly if its finding is of the rule. -/
theorem kind_beq_of_inFile {f : Finding} {path : Text} {v : Violation} (h : f.inFile path = .ok v)
    (rule : Rule) : (v.key.kind == rule.tag) = (f.rule == rule) := by
  rw [(Check.spec_of_inFile h).2.2.1, Bool.eq_iff_iff, beq_iff_eq, beq_iff_eq]
  exact ⟨Rule.tag_injective, congrArg Rule.tag⟩

/-- **What there is to report besides the carriage returns** is what there was to report before. -/
theorem reportedIn_sourceLines {config : Config} {path : Text} (htext : '\r' ∉ text)
    (h : reportedIn config path (Text.sourceLines (Text.withReturns text)) = .ok vs) :
    reportedIn config path (Text.sourceLines text) =
      .ok (vs.filter (·.key.kind != Rule.lineEnding.tag)) := by
  have hothers := mapM_filter (p := (·.rule != .lineEnding))
    (q := (·.key.kind != Rule.lineEnding.tag)) h fun f v hv ↦
      congrArg (! ·) (kind_beq_of_inFile hv .lineEnding)
  rwa [List.filter_comm, Check.filter_findings_withReturns config htext] at hothers

/-- **The carriage returns are reported** once for each line that a line feed ends. -/
theorem forall₂_makes_of_reportedIn {config : Config} {path : Text} (htext : '\r' ∉ text)
    (hreports : config.reports Rule.lineEnding.tag = true)
    (h : reportedIn config path (Text.sourceLines (Text.withReturns text)) = .ok vs) :
    List.Forall₂ (Finding.Makes path) ((Text.endedLines text).map (.plain · .lineEnding))
      (vs.filter (·.key.kind == Rule.lineEnding.tag)) := by
  have hreturns := mapM_filter (p := (·.rule == .lineEnding))
    (q := (·.key.kind == Rule.lineEnding.tag)) h fun f v hv ↦ kind_beq_of_inFile hv .lineEnding
  rw [List.filter_comm, Check.filter_lineEnding_withReturns config htext] at hreturns
  have hall : ((Text.endedLines text).map (Finding.plain · .lineEnding)).filter
      (config.reports ·.rule.tag) = (Text.endedLines text).map (.plain · .lineEnding) := by
    refine List.filter_eq_self.mpr fun f hf ↦ ?_
    obtain ⟨n, -, rfl⟩ := List.mem_map.mp hf
    exact hreports
  rw [hall] at hreturns
  exact (mapM_eq_ok_iff.mp hreturns).imp fun _ _ hv ↦ Check.spec_of_inFile hv

theorem inFile_eq_ok_iff_reportedIn (hpath : path.IsRelative)
    (h : host.disk.read (run.base / path) = .ok (Utf8.encode text)) :
    run.inFile host (Checker.active run.config) path = .ok vs ↔
      reportedIn run.config path (Text.sourceLines text) = .ok vs := by
  rw [inFile_eq_reportedAt hpath, reportedAt, readLines_of_read h]
  exact mapError_eq_ok_iff

/-- Violations that findings make have their path, their lines and their messages. -/
theorem map_of_makes {path : Text} {numbers : List Nat} {rule : Rule}
    (h : List.Forall₂ (Finding.Makes path) (numbers.map (.plain · rule)) vs) :
    (vs.map fun v ↦ (v.key.path, v.key.line, v.message)) =
      numbers.map fun n ↦ (path, n, rule.message) := by
  rw [List.forall₂_map_left_iff] at h
  induction h with
  | nil => rfl
  | cons hv _ ih =>
    obtain ⟨hpath, hline, -, hmessage⟩ := hv
    rw [List.map_cons, List.map_cons, ih, hpath, hline, hmessage]
    rfl

/-! ### Runs -/

theorem overFiles_singleton (h : run.inFile host (Checker.active run.config) path = .ok vs) :
    (run.overFiles host (Checker.active run.config) [path]).outcome = .ok (run.split 1 vs) := by
  rw [outcome_overFiles, mapM_eq_ok_iff.mpr (.cons h .nil)]
  show Except.ok (run.split 1 [vs].flatten) = _
  rw [List.flatten_singleton]

/-- **Line feeds with carriage returns change nothing but one kind.** Whatever a text without
carriage returns says, and whatever the relative path, the configuration and the registry are: the
file with the text and the file with a carriage return before each of its line feeds can both be
checked. Without the violations of the kind for carriage returns, the new and the exempt ones of the
second are those of the first, in the same order. Where this kind is reported there is one such
violation for each line that a line feed ends, with its number. -/
theorem carriage_returns_add_one_kind (run : Lint) {host host' : Host} {path text : Text}
    (hpath : path.head? ≠ some '/') (htext : '\r' ∉ text)
    (hhost : host.disk.read (run.base / Path.ofText path) = .ok (Utf8.encode text))
    (hhost' : host'.disk.read (run.base / Path.ofText path) =
      .ok (Utf8.encode (Text.withReturns text))) :
    ∃ result result',
      (run.overFiles host (Checker.active run.config) [Path.ofText path]).outcome = .ok result ∧
      (run.overFiles host' (Checker.active run.config) [Path.ofText path]).outcome = .ok result' ∧
      result'.without Rule.lineEnding.tag = result ∧
      (run.config.reports Rule.lineEnding.tag = true →
        ((result'.all.filter (·.key.kind == Rule.lineEnding.tag)).map fun v ↦
            (v.key.path, v.key.line, v.message)).Perm
          ((Text.endedLines text).map fun n ↦
            ((Path.ofText path).toText, n, Rule.lineEnding.message))) := by
  have hrelative : (Path.ofText path).IsRelative := Path.isRelative_ofText hpath
  obtain ⟨vs, hvs⟩ : ∃ vs, reportedIn run.config (Path.ofText path)
      (Text.sourceLines (Text.withReturns text)) = .ok vs := by
    obtain ⟨ws, hws⟩ := Check.exists_violations (Checker.all run.config) run.config
      (Path.toText_ne_nil hrelative.isNormal) hrelative.head?_toText _
    exact ⟨_, reportedIn_of_violations hws⟩
  have hfile' := (inFile_eq_ok_iff_reportedIn hrelative hhost').mpr hvs
  have hfile := (inFile_eq_ok_iff_reportedIn hrelative hhost).mpr (reportedIn_sourceLines htext hvs)
  refine ⟨_, _, overFiles_singleton hfile, overFiles_singleton hfile', ?_, fun hreports ↦ ?_⟩
  · exact (split_filter run 1 vs _).symm
  · rw [← map_of_makes (forall₂_makes_of_reportedIn htext hreports hvs)]
    exact ((all_split_perm run 1 vs).filter _).map _

/-! ### A sample -/

/-- A library with one file, which holds the text. -/
def singleFileHost (text : Text) : Host where
  disk :=
    { tree := (Files.Tree.empty.put ["A"] (.directory {})).put ["A", "A.lean"]
        (.file {} (Utf8.encode text))
      current := [] }
  git := none

theorem inFile_singleFileHost (registry : Registry) :
    (libraryRun registry).inFile (singleFileHost "x \ny") (Checker.active libraryConfig) outerPath =
      .ok [outerFinding .header, outerFinding .documentation, outerFinding .trailingBlanks] := by
  have hlines : readLines (singleFileHost "x \ny") (Path.here / outerPath) = .ok ["x \n", "y"] := by
    cbv
  rw [inFile, libraryRun, hlines]
  rfl

/-- **A file with two lines, one of them ended**: what is new stays new, what is accepted stays
accepted, and one thing is added. -/
theorem carriage_returns_add_one_kind_ended :
    ("A/A.lean" : Text).head? ≠ some '/' ∧ '\r' ∉ ("x \ny" : Text) ∧
    (singleFileHost "x \ny").disk.read (Path.here / Path.ofText "A/A.lean") =
      .ok (Utf8.encode "x \ny") ∧
    (singleFileHost "x \r\ny").disk.read (Path.here / Path.ofText "A/A.lean") =
      .ok (Utf8.encode "x \r\ny") ∧
    ∃ result', ((libraryRun libraryRegistry).overFiles (singleFileHost "x \r\ny")
        (Checker.active libraryConfig) [outerPath]).outcome = .ok result' ∧
      result'.without Rule.lineEnding.tag =
        ⟨[outerFinding .documentation, outerFinding .trailingBlanks], [outerFinding .header], 1⟩ ∧
      ((result'.all.filter (·.key.kind == Rule.lineEnding.tag)).map fun v ↦
        (v.key.path, v.key.line, v.message)).Perm
          [(("A/A.lean" : Text), 1, Rule.lineEnding.message)] := by
  have hpath : ("A/A.lean" : Text).head? ≠ some '/' := by decide
  have htext : '\r' ∉ ("x \ny" : Text) := by decide
  have hhost : (singleFileHost "x \ny").disk.read (Path.here / Path.ofText "A/A.lean") =
      .ok (Utf8.encode "x \ny") := by cbv
  have hhost' : (singleFileHost "x \r\ny").disk.read (Path.here / Path.ofText "A/A.lean") =
      .ok (Utf8.encode "x \r\ny") := by cbv
  obtain ⟨result, result', hresult, hresult', hothers, hreturns⟩ := carriage_returns_add_one_kind
    (libraryRun libraryRegistry) hpath htext hhost hhost'
  have hone := overFiles_singleton (inFile_singleFileHost libraryRegistry)
  obtain rfl := Except.ok.inj (hresult.symm.trans hone)
  exact ⟨hpath, htext, hhost, hhost', result', hresult', hothers.trans (by decide), hreturns rfl⟩

end Lint

end StyleLinter
