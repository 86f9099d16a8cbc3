import StyleLinter.Proofs.Check.Findings
import StyleLinter.Proofs.ExceptionList.Line

/-!
# What findings say

The messages of findings can stand in an exception list as they are (`isNote_message`): they neither
break a line nor begin or end with a blank. They are fixed texts with numbers in them, except that
one of them ends with the string that was found. So **what a configuration has to promise is that
the strings it forbids can stand in a list**, as those that are forbidden by default can.
-/

namespace StyleLinter

open ExceptionList (IsNote)

namespace ExceptionList

/-- A text is a note if its parts do not break and its ends are not blank. -/
theorem isNote_append {a m b : Text} {c d : Char} (ha : ∀ e ∈ a, Text.isLineBreak e = false)
    (hm : ∀ e ∈ m, Text.isLineBreak e = false) (hb : ∀ e ∈ b, Text.isLineBreak e = false)
    (hc : a.head? = some c) (hc' : Text.isBlank c = false) (hd : b.getLast? = some d)
    (hd' : Text.isBlank d = false) : IsNote (a ++ m ++ b) := by
  refine ⟨fun e he ↦ ?_, Text.trim_of_ends (fun e he ↦ ?_) fun e he ↦ ?_⟩
  · rw [List.mem_append, List.mem_append] at he
    rcases he with (he | he) | he
    · exact ha e he
    · exact hm e he
    · exact hb e he
  · rw [List.append_assoc, List.head?_append, hc] at he
    obtain rfl := Option.some.inj he
    exact hc'
  · rw [List.getLast?_append, hd] at he
    obtain rfl := Option.some.inj he
    exact hd'

end ExceptionList

/-- The messages of the rules can stand in a list. -/
theorem Rule.isNote_message (r : Rule) : IsNote r.message := by
  cases r <;> decide +kernel

/-- Can the strings that are forbidden stand in a list? -/
def Config.HasNotes (config : Config) : Prop := ∀ w ∈ config.forbidden, IsNote w

theorem isNote_of_mem_defaultForbidden : ∀ w ∈ defaultForbidden, IsNote w := by
  intro w hw
  simp only [defaultForbidden, List.mem_cons, List.not_mem_nil, or_false] at hw
  rcases hw with rfl | rfl | rfl | rfl <;> decide +kernel

namespace Check

variable {config : Config} {lines : List Text} {f : Finding}

theorem isNote_lineLength (h : f ∈ lineLength config.lineLimit lines) : IsNote f.message := by
  obtain ⟨m, line, -, hf⟩ := exists_of_mem_eachLine h
  rw [List.mem_ite_nil_right, List.mem_singleton] at hf
  rw [hf.2]
  exact ExceptionList.isNote_append (c := 'L') (d := 's') (Text.not_isLineBreak_of_all rfl)
    (Text.not_isLineBreak_ofNat _) (Text.not_isLineBreak_of_all rfl) rfl (by decide) rfl (by decide)

theorem isNote_fileLength (h : f ∈ fileLength config.fileLimit lines) : IsNote f.message := by
  rw [fileLength, List.mem_ite_nil_right, List.mem_singleton] at h
  have hmiddle : ∀ c ∈ Text.ofNat lines.length ++ " lines (at most ".toList ++
      Text.ofNat config.fileLimit, Text.isLineBreak c = false := by
    intro c hc
    rw [List.mem_append, List.mem_append] at hc
    rcases hc with (hc | hc) | hc
    · exact Text.not_isLineBreak_ofNat _ c hc
    · exact Text.not_isLineBreak_of_all rfl c hc
    · exact Text.not_isLineBreak_ofNat _ c hc
  have hnote := ExceptionList.isNote_append (a := "file contains ".toList)
    (b := "), try to split it up".toList) (c := 'f') (d := 'p')
    (Text.not_isLineBreak_of_all rfl) hmiddle (Text.not_isLineBreak_of_all rfl) rfl (by decide) rfl
    (by decide)
  rw [h.2]
  simpa only [List.append_assoc] using hnote

theorem mem_of_forbiddenOn? {words : List Text} {line word : Text}
    (h : forbiddenOn? words line = some word) : word ∈ words := by
  simp only [forbiddenOn?] at h
  split at h
  · cases h
  · exact List.mem_of_find?_eq_some h

theorem isNote_forbidden (hconfig : config.HasNotes) (h : f ∈ forbidden config.forbidden lines) :
    IsNote f.message := by
  obtain ⟨m, line, -, hf⟩ := exists_of_mem_eachLine h
  split at hf
  · next word hword =>
    have hmem := mem_of_forbiddenOn? hword
    have hnote := hconfig word hmem
    obtain ⟨d, hd⟩ : ∃ d, word.getLast? = some d :=
      ⟨_, List.getLast?_eq_some_getLast (config.forbidden_ne_nil word hmem)⟩
    rw [List.mem_singleton.mp hf]
    exact ExceptionList.isNote_append (c := 'F') (Rule.isNote_message .forbidden).no_break
      (Text.not_isLineBreak_of_all rfl) hnote.no_break rfl (by decide) hd
      (Text.not_blank_getLast?_of_trim_eq hnote.trimmed hd)
  · exact absurd hf List.not_mem_nil

/-- **What a checker says can stand in a list.** -/
theorem isNote_message {checker : Checker} (hconfig : config.HasNotes)
    (hc : checker ∈ Checker.all config) (h : f ∈ checker.findings config lines) :
    IsNote f.message := by
  cases checker with
  | header =>
    rcases Header.findings_eq lines with he | ⟨n, -, rule, -, he⟩ <;> rw [Checker.findings, he] at h
    · exact absurd h List.not_mem_nil
    · rw [List.mem_singleton.mp h]
      exact rule.isNote_message
  | documentation =>
    rcases Documentation.findings_eq lines with he | ⟨n, -, he⟩ <;> rw [Checker.findings, he] at h
    · exact absurd h List.not_mem_nil
    · rw [List.mem_singleton.mp h]
      exact Rule.isNote_message .documentation
  | fileLength => exact isNote_fileLength h
  | lineLength => exact isNote_lineLength h
  | lineEnds =>
    obtain ⟨m, line, -, hf⟩ := exists_of_mem_eachLine h
    rw [List.mem_append, List.mem_ite_nil_right, List.mem_ite_nil_right, List.mem_singleton,
      List.mem_singleton] at hf
    rcases hf with ⟨-, rfl⟩ | ⟨-, rfl⟩
    · exact Rule.isNote_message .lineEnding
    · exact Rule.isNote_message .trailingBlanks
  | forbidden words =>
    obtain rfl : words = config.forbidden := by simpa [Checker.all] using hc
    exact isNote_forbidden hconfig h

end Check

end StyleLinter
