import Mathlib.Data.List.DropRight
import StyleLinter.Proofs.Text.Fields
import StyleLinter.Proofs.Text.Lines

/-!
# Lines of source files

A line of a source file is what it says and then its ending, and **the ending is all that
`dropEnding` takes away** (`dropEnding_content`). Some questions about a line are asked of the whole
line, ending and all: whether a piece stands in it, and what is left when blanks are trimmed off.
The answers do not depend on the ending either, since it is blank (`trim_dropEnding`) and no piece
without line endings reaches into it (`occursIn_dropEnding`).

`withReturns` writes a carriage return before every line feed. A text without carriage returns is
cut into the same lines before and after that (`sourceLines_withReturns`), each with its own ending.
-/

namespace StyleLinter.Text

variable {t line : Text}

/-! ### Pieces inside a text -/

theorem occursIn_iff {piece : Text} : occursIn piece t = true ↔ piece <:+: t := by
  induction t with
  | nil => rw [occursIn, List.isEmpty_iff, List.infix_nil]
  | cons c t ih =>
    rw [occursIn, Bool.or_eq_true, List.isPrefixOf_iff_prefix, ih, List.infix_cons_iff]

theorem endsWith_append (t piece : Text) : endsWith (t ++ piece) piece = true :=
  List.isSuffixOf_iff_suffix.mpr (List.suffix_append t piece)

/-- What does not stand in a text does not stand at its end. -/
theorem not_endsWith_of_not_mem {piece : Text} {c : Char} (hc : c ∈ piece) (h : c ∉ t) :
    endsWith t piece = false :=
  Bool.eq_false_iff.mpr fun he ↦ h ((List.isSuffixOf_iff_suffix.mp he).subset hc)

/-! ### Endings -/

/-- The characters that an ending is made of. -/
def isEnding (c : Char) : Bool := c == '\r' || c == '\n'

theorem dropEnding_eq_rdropWhile (line : Text) : dropEnding line = line.rdropWhile isEnding := rfl

theorem isBlank_of_isEnding {c : Char} (h : isEnding c = true) : isBlank c = true := by
  rw [isEnding, Bool.or_eq_true, beq_iff_eq, beq_iff_eq] at h
  rcases h with rfl | rfl <;> decide

/-- A line is what is left of it, and then an ending. -/
theorem exists_eq_dropEnding_append (line : Text) :
    ∃ ending, line = dropEnding line ++ ending ∧ ∀ c ∈ ending, isEnding c = true := by
  refine ⟨line.rtakeWhile isEnding, ?_, fun c hc ↦ List.mem_rtakeWhile_imp hc⟩
  exact (List.rdropWhile_append_rtakeWhile ..).symm

/-- **The ending is what is taken away.** -/
theorem dropEnding_append {ending : Text} (h : ending.all isEnding = true) (content : Text) :
    dropEnding (content ++ ending) = dropEnding content := by
  induction ending using List.reverseRecOn with
  | nil => rw [List.append_nil]
  | append_singleton ending c ih =>
    rw [List.all_append, Bool.and_eq_true] at h
    have hc : isEnding c = true := List.all_eq_true.mp h.2 c (List.mem_singleton_self c)
    rw [← List.append_assoc, dropEnding_eq_rdropWhile, List.rdropWhile_concat_pos _ _ _ hc,
      ← dropEnding_eq_rdropWhile, ih h.1]

/-- Trimming takes the ending away, too. -/
theorem trim_dropEnding (line : Text) : trim (dropEnding line) = trim line := by
  obtain ⟨ending, hline, hending⟩ := exists_eq_dropEnding_append line
  generalize dropEnding line = content at hline ⊢
  subst hline
  induction ending using List.reverseRecOn with
  | nil => rw [List.append_nil]
  | append_singleton ending c ih =>
    rw [ih fun d hd ↦ hending d (List.mem_append_left _ hd), ← List.append_assoc,
      trim_concat_blank (isBlank_of_isEnding (hending c List.mem_concat_self))]

/-- A piece without line endings does not reach into an ending. -/
theorem isInfix_of_append {piece ending content : Text} (hpiece : piece.any isEnding = false)
    (hending : ∀ c ∈ ending, isEnding c = true) (h : piece <:+: content ++ ending) :
    piece <:+: content := by
  induction ending using List.reverseRecOn with
  | nil => rwa [List.append_nil] at h
  | append_singleton ending c ih =>
    rw [← List.append_assoc, List.infix_concat_iff, List.suffix_concat_iff] at h
    rcases h with (rfl | ⟨front, rfl, -⟩) | h
    · exact List.nil_infix
    · exact absurd (hending c List.mem_concat_self)
        (List.any_eq_false.mp hpiece c List.mem_concat_self)
    · exact ih (fun d hd ↦ hending d (List.mem_append_left _ hd)) h

/-- **Whether a piece without line endings stands in a line** does not depend on the ending. -/
theorem occursIn_dropEnding {piece : Text} (hpiece : piece.any isEnding = false) (line : Text) :
    occursIn piece (dropEnding line) = occursIn piece line := by
  obtain ⟨ending, hline, hending⟩ := exists_eq_dropEnding_append line
  rw [Bool.eq_iff_iff, occursIn_iff, occursIn_iff]
  constructor
  · intro h
    rw [hline]
    exact h.trans (List.prefix_append _ _).isInfix
  · intro h
    rw [hline] at h
    exact isInfix_of_append hpiece hending h

/-! ### Carriage returns -/

/-- Every line feed with a carriage return before it. -/
def withReturns (t : Text) : Text := t.flatMap fun c ↦ if c = '\n' then ['\r', '\n'] else [c]

theorem withReturns_newline (t : Text) : withReturns ('\n' :: t) = '\r' :: '\n' :: withReturns t := by
  rw [withReturns, List.flatMap_cons, if_pos rfl]
  rfl

theorem withReturns_cons {c : Char} (h : c ≠ '\n') (t : Text) :
    withReturns (c :: t) = c :: withReturns t := by
  rw [withReturns, List.flatMap_cons, if_neg h]
  rfl

theorem withReturns_eq_self (h : '\n' ∉ t) : withReturns t = t := by
  induction t with
  | nil => rfl
  | cons c t ih =>
    rw [List.mem_cons, not_or] at h
    rw [withReturns_cons (Ne.symm h.1), ih h.2]

/-- The line feed at the end of a line gets a carriage return. -/
theorem withReturns_concat {content : Text} (h : '\n' ∉ content) :
    withReturns (content ++ ['\n']) = content ++ "\r\n".toList := by
  rw [withReturns, List.flatMap_append]
  exact congrArg (· ++ _) (withReturns_eq_self h)

/-! ### Cutting into lines -/

theorem sourceLines_ne_nil (h : t ≠ []) : sourceLines t ≠ [] := by
  fun_cases sourceLines t with
  | case1 => exact absurd rfl h
  | case2 => nofun
  | case3 => nofun
  | case4 => nofun
  | case5 => nofun

/-- A character that ends no line belongs to the first line. -/
theorem sourceLines_cons {c : Char} (hc : ¬(c = '\n' ∨ c = '\r')) (t : Text) :
    sourceLines (c :: t) = match sourceLines t with
      | [] => [[c]]
      | l :: ls => (c :: l) :: ls :=
  (sourceLines.eq_3 _ _ fun _ h ↦ absurd (.inr h) hc).trans (if_neg hc)

/-- **Carriage returns before the line feeds change the endings of the lines** and nothing else. -/
theorem sourceLines_withReturns (h : '\r' ∉ t) :
    sourceLines (withReturns t) = (sourceLines t).map withReturns := by
  fun_induction sourceLines t with
  | case1 => rfl
  | case2 r ih => exact absurd List.mem_cons_self h
  | case3 c r _ hc ih =>
    rw [List.mem_cons, not_or] at h
    obtain rfl := hc.resolve_right (Ne.symm h.1)
    rw [withReturns_newline, sourceLines, ih h.2]
    rfl
  | case4 c r _ hc hlines ih =>
    obtain rfl : r = [] := by_contra fun hne ↦ sourceLines_ne_nil hne hlines
    rw [withReturns_cons fun he ↦ hc (.inl he), sourceLines_cons hc]
    exact congrArg (· :: []) (withReturns_cons (fun he ↦ hc (.inl he)) []).symm
  | case5 c r _ hc l ls hlines ih =>
    rw [List.mem_cons, not_or] at h
    have hc' : c ≠ '\n' := fun he ↦ hc (.inl he)
    rw [withReturns_cons hc', sourceLines_cons hc, ih h.2, hlines, List.map_cons, List.map_cons,
      withReturns_cons hc']

/-! ### Lines of texts without carriage returns -/

/-- Does the line have no carriage return, and no line feed but at its end? -/
inductive IsPlainLine : Text → Prop
  | /-- Nothing ends the line: it is the last one. -/
    unended {content : Text} : '\n' ∉ content → '\r' ∉ content → IsPlainLine content
  | /-- A line feed ends the line. -/
    ended {content : Text} : '\n' ∉ content → '\r' ∉ content → IsPlainLine (content ++ ['\n'])

theorem IsPlainLine.cons {c : Char} (hc : ¬(c = '\n' ∨ c = '\r')) (h : IsPlainLine line) :
    IsPlainLine (c :: line) := by
  rw [not_or] at hc
  have hmem {d : Char} {content : Text} (hd : c ≠ d) (h : d ∉ content) : d ∉ c :: content := by
    rw [List.mem_cons, not_or]
    exact ⟨Ne.symm hd, h⟩
  cases h with
  | unended hn hr => exact .unended (hmem hc.1 hn) (hmem hc.2 hr)
  | ended hn hr => exact .ended (hmem hc.1 hn) (hmem hc.2 hr)

/-- **The lines of a text without carriage returns** end with line feeds, if at all. -/
theorem isPlainLine_of_mem_sourceLines (h : '\r' ∉ t) : ∀ l ∈ sourceLines t, IsPlainLine l := by
  fun_induction sourceLines t with
  | case1 => nofun
  | case2 r ih => exact absurd List.mem_cons_self h
  | case3 c r _ hc ih =>
    rw [List.mem_cons, not_or] at h
    obtain rfl := hc.resolve_right (Ne.symm h.1)
    exact List.forall_mem_cons.mpr ⟨.ended List.not_mem_nil List.not_mem_nil, ih h.2⟩
  | case4 c r _ hc hlines ih =>
    have hnil : IsPlainLine [] := .unended List.not_mem_nil List.not_mem_nil
    exact List.forall_mem_singleton.mpr (hnil.cons hc)
  | case5 c r _ hc l ls hlines ih =>
    rw [List.mem_cons, not_or] at h
    obtain ⟨hl, hls⟩ := List.forall_mem_cons.mp (hlines ▸ ih h.2)
    exact List.forall_mem_cons.mpr ⟨hl.cons hc, hls⟩

namespace IsPlainLine

theorem not_mem (h : IsPlainLine line) : '\r' ∉ line := by
  cases h with
  | unended hn hr => exact hr
  | ended hn hr =>
    rw [List.mem_append, not_or]
    exact ⟨hr, by decide⟩

/-- What the line says stays. -/
theorem dropEnding_withReturns (h : IsPlainLine line) :
    dropEnding (withReturns line) = dropEnding line := by
  cases h with
  | unended hn hr => rw [withReturns_eq_self hn]
  | ended hn hr =>
    rw [withReturns_concat hn, dropEnding_append (by decide), dropEnding_append (by decide)]

/-- **Where a line feed ends the line**, a carriage return stands before it afterwards. -/
theorem endsWith_withReturns (h : IsPlainLine line) :
    endsWith (withReturns line) "\r\n" = endsWith line "\n" := by
  cases h with
  | unended hn hr =>
    rw [withReturns_eq_self hn, not_endsWith_of_not_mem (c := '\n') (by decide) hn,
      not_endsWith_of_not_mem (c := '\n') (by decide) hn]
  | ended hn hr =>
    rw [withReturns_concat hn, endsWith_append]
    exact (endsWith_append _ "\n".toList).symm

/-- No carriage return ends the line. -/
theorem not_endsWith (h : IsPlainLine line) : endsWith line "\r\n" = false :=
  not_endsWith_of_not_mem (c := '\r') (by decide) h.not_mem

end IsPlainLine

/-! ### Lines that are ended -/

/-- The numbers of the lines that a line feed ends. -/
def endedLines (t : Text) : List Nat :=
  (((sourceLines t).zipIdx 1).filter fun l ↦ endsWith l.1 "\n").map (·.2)

/-- **With carriage returns before the line feeds**, the lines that were ended are those that end
with both. -/
theorem endedLines_eq (h : '\r' ∉ t) :
    endedLines t =
      (((sourceLines (withReturns t)).zipIdx 1).filter fun l ↦ endsWith l.1 "\r\n").map (·.2) := by
  rw [sourceLines_withReturns h, List.zipIdx_map, List.filter_map, List.map_map, endedLines]
  refine congrArg (List.map Prod.snd) (List.filter_congr fun l hl ↦ ?_)
  exact (isPlainLine_of_mem_sourceLines h l.1 (List.fst_mem_of_mem_zipIdx hl)).endsWith_withReturns.symm

theorem contents_withReturns (h : '\r' ∉ t) :
    (sourceLines (withReturns t)).map dropEnding = (sourceLines t).map dropEnding := by
  rw [sourceLines_withReturns h, List.map_map]
  exact List.map_congr_left fun l hl ↦
    (isPlainLine_of_mem_sourceLines h l hl).dropEnding_withReturns

end StyleLinter.Text
