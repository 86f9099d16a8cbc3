import StyleLinter.Text.Lines

/-!
# Lines of lists

A text that is written line by line is read line by line: `lines_flatMap` cuts it where it was put
together, as long as no line has a break of its own, and the lines of any text have none
(`not_isLineBreak_of_mem_lines`); a text without breaks is one line (`lines_of_not_isLineBreak`).
What is appended after a line feed makes lines of its own (`lines_append`).
-/

namespace StyleLinter.Text

theorem isLineBreak_newline : isLineBreak '\n' = true := by decide

/-- The printable characters of ASCII break no line. -/
theorem not_isLineBreak_of_toNat {c : Char} (hlow : 0x20 ≤ c.toNat) (hhigh : c.toNat ≤ 0x84) :
    isLineBreak c = false := by
  simp only [isLineBreak, Bool.or_eq_false_iff, Bool.and_eq_false_iff, decide_eq_false_iff_not,
    beq_eq_false_iff_ne]
  omega

theorem not_isLineBreak_of_all {t : Text} (h : t.all (!isLineBreak ·) = true) :
    ∀ c ∈ t, isLineBreak c = false := by
  intro c hc
  rw [List.all_eq_true] at h
  exact Bool.not_eq_true' _ ▸ h c hc

/-- A character that breaks no line is in the first one. -/
theorem lines_cons {c : Char} (hc : isLineBreak c = false) (t : Text) :
    lines (c :: t) = match lines t with
      | [] => [[c]]
      | l :: ls => (c :: l) :: ls := by
  -- the first case of `lines` is about a carriage return, which is a line break
  have hr : c ≠ '\r' := fun h ↦ absurd (h ▸ hc) (by decide)
  rw [lines.eq_3 _ _ (fun _ h _ ↦ hr h), hc]
  rfl

/-- A line ends at its line feed. -/
theorem lines_append_newline {l : Text} (hl : ∀ c ∈ l, isLineBreak c = false) (t : Text) :
    lines (l ++ '\n' :: t) = l :: lines t := by
  induction l with
  | nil => rfl
  | cons c l ih =>
    rw [List.cons_append, lines_cons (hl c List.mem_cons_self),
      ih fun d hd ↦ hl d (List.mem_cons_of_mem _ hd)]

/-- **What is written line by line is read line by line.** -/
theorem lines_flatMap {ls : List Text} (h : ∀ l ∈ ls, ∀ c ∈ l, isLineBreak c = false) :
    lines (ls.flatMap (· ++ ['\n'])) = ls := by
  induction ls with
  | nil => rfl
  | cons l ls ih =>
    rw [List.flatMap_cons, List.append_assoc, List.singleton_append,
      lines_append_newline (h l List.mem_cons_self),
      ih fun m hm ↦ h m (List.mem_cons_of_mem _ hm)]

/-- **No line has a line break in it.** -/
theorem not_isLineBreak_of_mem_lines {t l : Text} (h : l ∈ lines t) {c : Char} (hc : c ∈ l) :
    isLineBreak c = false := by
  fun_induction lines t generalizing l with
  | case1 => exact absurd h List.not_mem_nil
  | case2 r ih =>
    rcases List.mem_cons.mp h with rfl | h
    · exact absurd hc List.not_mem_nil
    · exact ih h hc
  | case3 d r _ hd ih =>
    rcases List.mem_cons.mp h with rfl | h
    · exact absurd hc List.not_mem_nil
    · exact ih h hc
  | case4 d r _ hd hr ih =>
    rw [List.mem_singleton.mp h, List.mem_singleton] at hc
    exact hc ▸ Bool.eq_false_iff.mpr hd
  | case5 d r _ hd l' ls hr ih =>
    rw [hr] at ih
    rcases List.mem_cons.mp h with rfl | h
    · rcases List.mem_cons.mp hc with rfl | hc
      · exact Bool.eq_false_iff.mpr hd
      · exact ih List.mem_cons_self hc
    · exact ih (List.mem_cons_of_mem _ h) hc

/-- **A text without line breaks is one line.** -/
theorem lines_of_not_isLineBreak {t : Text} (hne : t ≠ [])
    (h : ∀ c ∈ t, isLineBreak c = false) : lines t = [t] := by
  induction t with
  | nil => exact absurd rfl hne
  | cons c t ih =>
    rw [lines_cons (h c List.mem_cons_self)]
    cases t with
    | nil => rfl
    | cons d t => rw [ih (List.cons_ne_nil d t) fun e he ↦ h e (List.mem_cons_of_mem _ he)]

theorem lines_ne_nil {t : Text} (h : t ≠ []) : lines t ≠ [] := by
  fun_cases lines t with
  | case1 => exact absurd rfl h
  | case2 => nofun
  | case3 => nofun
  | case4 => nofun
  | case5 => nofun

theorem tail_ne_nil_of_getLast? {c d : Char} {t : Text} (h : ∀ e, (c :: t).getLast? = some e → e = d)
    (hc : c ≠ d) : t ≠ [] := by
  rintro rfl
  exact hc (h c rfl)

/-- **The lines of a text are not changed by what follows**, if its last line has a line feed. -/
theorem lines_append {t : Text} (h : ∀ c, t.getLast? = some c → c = '\n') (u : Text) :
    lines (t ++ u) = lines t ++ lines u := by
  have htail {c : Char} {r : Text} (h : ∀ d, (c :: r).getLast? = some d → d = '\n') :
      ∀ d, r.getLast? = some d → d = '\n' := by
    intro d hd
    refine h d ?_
    rw [List.getLast?_cons, hd]
    rfl
  fun_induction lines t with
  | case1 => rfl
  | case2 r ih =>
    rw [List.cons_append, List.cons_append, lines, ih (htail (htail h))]
    rfl
  | case3 c r hr hc ih =>
    -- a carriage return is not the last character, and no line feed follows it
    have hr' : ∀ r', c = '\r' → r ++ u = '\n' :: r' → False := by
      rintro r' rfl he
      obtain ⟨d, s, rfl⟩ := List.exists_cons_of_ne_nil (tail_ne_nil_of_getLast? h (by decide))
      exact hr s rfl (congrArg (· :: s) (List.cons.inj he).1)
    rw [List.cons_append, lines.eq_3 _ _ hr', if_pos hc, ih (htail h)]
    rfl
  | case4 c r hr hc hlines ih =>
    have hne : r ≠ [] := tail_ne_nil_of_getLast? h (by rintro rfl; exact hc isLineBreak_newline)
    exact absurd hlines (lines_ne_nil hne)
  | case5 c r _ hc l ls hlines ih =>
    rw [List.cons_append, lines_cons (Bool.eq_false_iff.mpr hc), ih (htail h), hlines]
    rfl

end StyleLinter.Text
