import StyleLinter.Proofs.Check.Documentation
import StyleLinter.Proofs.Check.Grammar

/-!
# Where the header ends

Two checkers look for the end of the header. For the header itself it ends with a line that says
that it does and nothing else; for the documentation, **also with such a line that has blanks around
it**. As such a line may be one of the lines that the authors go on over, the second end may come
before the first one (`exists_isClosing_trim`). It never comes after it, nor among the first four
lines, since none of these closes the header, whatever is trimmed off them
(`Header.trim_ne_closing_of_fits`).

So where the header is in order and the documentation follows it, the documentation may yet be
missed. What becomes of it is decided between the two ends (`findings_eq_nil_iff_of_isClosing`):
nothing beyond the first one of them is found if it is not found before the other, as a closing line
may not stand before the documentation (`Documentation.isDocumented_append_iff`).
-/

namespace StyleLinter.Check

open Header (IsClosing Begins closing)
open Documentation (HeaderEnds IsDocumented)

variable {lines : List Text} {line : Text} {i j k : Nat}

/-- A line that is there without its ending is there without the blanks around it. -/
theorem getElem?_trim (h : (lines.map Text.dropEnding)[i]? = some line) :
    (lines.map Text.trim)[i]? = some (Text.trim line) := by
  rw [List.getElem?_map] at h ⊢
  obtain ⟨raw, hraw, rfl⟩ := Option.map_eq_some_iff.mp h
  rw [hraw, Option.map_some, Text.trim_dropEnding]

/-- **The header ends for the documentation** with the first line, from the fifth on, that closes it
once blanks are trimmed off. -/
theorem headerEnds_of_isClosing (hbegins : Begins (lines.map Text.dropEnding) 4)
    (hclosing : IsClosing (lines.map Text.trim) j) : HeaderEnds (lines.map Text.trim) (j + 1) := by
  obtain ⟨hlt, -⟩ := List.getElem?_eq_some_iff.mp hclosing.closes
  have hfour := hclosing.four_le
  have hopen : ((lines.map Text.trim).take j).head? = some Header.opening := by
    obtain ⟨line, hline, rfl⟩ := hbegins 0 (by decide)
    rw [List.head?_eq_getElem?, List.getElem?_take_of_lt (by omega), getElem?_trim hline]
    rfl
  have hbefore : closing ∉ (lines.map Text.trim).take j := by
    rw [List.mem_iff_getElem?]
    rintro ⟨i, hi⟩
    obtain ⟨hlti, -⟩ := List.getElem?_eq_some_iff.mp hi
    rw [List.length_take] at hlti
    rw [List.getElem?_take_of_lt (by omega)] at hi
    rcases Nat.lt_or_ge i 4 with hi4 | hi4
    · -- it would be one of the first four lines
      obtain ⟨line, hline, hfits⟩ := hbegins i hi4
      have htrim := Option.some.inj ((getElem?_trim hline).symm.trans hi)
      exact Header.trim_ne_closing_of_fits hi4 hfits htrim
    · exact hclosing.first i hi4 (by omega) hi
  have htext := Header.drop_eq_take_append hclosing.closes (Nat.zero_le j)
  rw [List.drop_zero, List.drop_zero, List.append_cons] at htext
  have hends := HeaderEnds.closed ⟨_, hopen, hbefore, rfl⟩ htext
  rwa [List.length_append, List.length_take_of_le (Nat.le_of_lt hlt)] at hends

/-- **The two ends of the header**: the documentation is looked for behind a line that does not come
after the one that closes the header. -/
theorem exists_isClosing_trim (hclosing : IsClosing (lines.map Text.dropEnding) k) :
    ∃ j ≤ k, IsClosing (lines.map Text.trim) j := by
  have hclose : (lines.map Text.trim)[k]? = some closing := getElem?_trim hclosing.closes
  obtain ⟨j, hj⟩ := Header.exists_isClosing hclosing.four_le hclose
  exact ⟨j, Nat.le_of_not_lt fun hlt ↦ hj.first k hclosing.four_le hlt hclose, hj⟩

/-- Documentation that is found behind an earlier end stands before the later one. -/
theorem isDocumented_drop_iff (hclose : (lines.map Text.trim)[k]? = some closing) (hlt : j < k) :
    IsDocumented ((lines.map Text.trim).drop (j + 1)) ↔
      IsDocumented (((lines.map Text.trim).take k).drop (j + 1)) := by
  rw [Header.drop_eq_take_append hclose hlt]
  exact Documentation.isDocumented_append_iff (mt Documentation.isSkipped_iff.mpr (by decide))
    (by decide) _ _

/-- **Documentation that follows the header may be missed.** Where no line deviates from the header,
the documentation is looked for behind the first line from the fifth on that closes the header once
blanks are trimmed off. If the documentation follows the header, it is found exactly if this line is
the one that the header ends with, or there is other documentation between the two. -/
theorem findings_eq_nil_iff_of_isClosing (hheader : ∀ f ∈ Header.findings lines, f.rule ≠ .header)
    (hclosing : IsClosing (lines.map Text.dropEnding) k)
    (hdocumented : IsDocumented ((lines.map Text.trim).drop (k + 1))) :
    ∃ j ≤ k, IsClosing (lines.map Text.trim) j ∧ HeaderEnds (lines.map Text.trim) (j + 1) ∧
      (Documentation.findings lines = [] ↔
        j = k ∨ IsDocumented (((lines.map Text.trim).take k).drop (j + 1))) := by
  obtain ⟨j, hle, hj⟩ := exists_isClosing_trim hclosing
  have hends := headerEnds_of_isClosing (Header.begins_of_rule_ne hheader) hj
  refine ⟨j, hle, hj, hends, ?_⟩
  rw [Documentation.findings_eq_nil_iff hends]
  rcases Nat.lt_or_eq_of_le hle with hlt | rfl
  · rw [isDocumented_drop_iff (getElem?_trim hclosing.closes) hlt, or_iff_right (Nat.ne_of_lt hlt)]
  · exact iff_of_true hdocumented (.inl rfl)

/-- A header with two closing lines, the first one with blanks before it. -/
def indentedHeader : List Text :=
  ["/-\n", "Copyright (c) 2024 A. All rights reserved.\n",
    "Released under Apache 2.0 license as described in the file LICENSE.\n", "Authors: A\n", "  -/\n",
    "-/\n", "/-! doc -/\n"]

/-- The header is in order and the documentation follows it, yet it is missed: the second closing
line is reported. -/
theorem findings_eq_nil_iff_of_isClosing_indentedHeader :
    (∀ f ∈ Header.findings indentedHeader, f.rule ≠ .header) ∧
      IsClosing (indentedHeader.map Text.dropEnding) 5 ∧
      IsDocumented ((indentedHeader.map Text.trim).drop 6) ∧
      Documentation.findings indentedHeader = [.plain 6 .documentation] ∧
      ∃ j ≤ 5, IsClosing (indentedHeader.map Text.trim) j ∧
        HeaderEnds (indentedHeader.map Text.trim) (j + 1) ∧
        (Documentation.findings indentedHeader = [] ↔
          j = 5 ∨ IsDocumented (((indentedHeader.map Text.trim).take 5).drop (j + 1))) := by
  have hheader : ∀ f ∈ Header.findings indentedHeader, f.rule ≠ .header := by decide
  have hclosing : IsClosing (indentedHeader.map Text.dropEnding) 5 := by
    refine ⟨by decide, by decide, fun j hj hlt ↦ ?_⟩
    obtain rfl : j = 4 := by omega
    decide
  have hdocumented : IsDocumented ((indentedHeader.map Text.trim).drop 6) :=
    ⟨[], "/-! doc -/", [], by decide, nofun, by decide⟩
  exact ⟨hheader, hclosing, hdocumented, by decide,
    findings_eq_nil_iff_of_isClosing hheader hclosing hdocumented⟩

end StyleLinter.Check
