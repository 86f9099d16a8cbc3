import Mathlib.Data.List.DropRight
import StyleLinter.Text.Blank

/-!
# Trimming and cutting

The two operations that take a line of a list apart: cutting it at the first separators, and
trimming the pieces. Each is characterized by what it leaves: `piecesUpTo` by the equation that a
cut satisfies (`piecesUpTo_succ`), and `trim` by its ends, neither of which is blank.
-/

namespace StyleLinter.Text

/-! ### Trimming -/

/-- The printable characters of ASCII are not blank. -/
theorem not_isBlank_of_toNat {c : Char} (hlow : 0x21 ≤ c.toNat) (hhigh : c.toNat ≤ 0x84) :
    isBlank c = false := by
  simp only [isBlank, inRanges, blankRanges, List.any_cons, List.any_nil, Bool.or_false,
    Bool.or_eq_false_iff, Bool.and_eq_false_iff, decide_eq_false_iff_not]
  omega

theorem trimEnd_eq_rdropWhile (t : Text) : trimEnd t = t.rdropWhile isBlank := rfl

theorem trimStart_cons_of_not_blank {c : Char} {t : Text} (h : isBlank c = false) :
    trimStart (c :: t) = c :: t := by
  simp [trimStart, h]

theorem trimStart_cons_of_blank {c : Char} {t : Text} (h : isBlank c = true) :
    trimStart (c :: t) = trimStart t := by
  simp [trimStart, h]

theorem trimStart_append {blanks t : Text} (h : ∀ c ∈ blanks, isBlank c = true) :
    trimStart (blanks ++ t) = trimStart t := List.dropWhile_append_of_pos h

theorem not_blank_head?_trimStart {t : Text} {c : Char} (h : (trimStart t).head? = some c) :
    isBlank c = false := by
  have := List.head?_dropWhile_not isBlank t
  rw [trimStart] at h
  rw [h] at this
  simpa using this

/-- **What ends with a character that is not blank keeps its end**, and trimming what follows goes
no further. -/
theorem trimEnd_append {s : Text} {c : Char} (h : isBlank c = false) (t : Text) :
    trimEnd (s ++ c :: t) = s ++ c :: trimEnd t := by
  induction t using List.reverseRecOn with
  | nil =>
    rw [trimEnd_eq_rdropWhile, List.rdropWhile_concat_neg _ _ _ (by simp [h])]
    rfl
  | append_singleton t d ih =>
    rw [show s ++ c :: (t ++ [d]) = (s ++ c :: t) ++ [d] by simp]
    by_cases hd : isBlank d = true
    · rw [trimEnd_eq_rdropWhile, List.rdropWhile_concat_pos _ _ _ hd, ← trimEnd_eq_rdropWhile, ih,
        trimEnd_eq_rdropWhile (t ++ [d]), List.rdropWhile_concat_pos _ _ _ hd,
        ← trimEnd_eq_rdropWhile]
    · rw [trimEnd_eq_rdropWhile, List.rdropWhile_concat_neg _ _ _ hd,
        trimEnd_eq_rdropWhile (t ++ [d]), List.rdropWhile_concat_neg _ _ _ hd]
      simp

theorem isPrefix_trimEnd (t : Text) : trimEnd t <+: t := List.rdropWhile_prefix _ _

theorem trimStart_suffix (t : Text) : trimStart t <:+ t := List.dropWhile_suffix _

theorem trimEnd_concat_blank {c : Char} (h : isBlank c = true) (t : Text) :
    trimEnd (t ++ [c]) = trimEnd t := List.rdropWhile_concat_pos _ _ _ h

theorem mem_of_mem_trim {t : Text} {c : Char} (h : c ∈ trim t) : c ∈ t :=
  (trimStart_suffix t).subset ((isPrefix_trimEnd _).subset h)

/-- What a text begins with, once it is trimmed, is not blank. -/
theorem not_blank_head?_trim {t : Text} {c : Char} (h : (trim t).head? = some c) :
    isBlank c = false := by
  obtain ⟨r, hr⟩ := isPrefix_trimEnd (trimStart t)
  refine not_blank_head?_trimStart (t := t) ?_
  rw [← hr]
  change (trim t ++ r).head? = some c
  rw [List.head?_append, h]
  rfl

theorem trimStart_of_head? {t : Text} (h : ∀ c, t.head? = some c → isBlank c = false) :
    trimStart t = t := by
  cases t with
  | nil => rfl
  | cons c t => exact trimStart_cons_of_not_blank (h c rfl)

theorem trim_of_head? {t : Text} (h : ∀ c, t.head? = some c → isBlank c = false) :
    trim t = trimEnd t := by
  rw [trim, trimStart_of_head? h]

/-- Trimming keeps a beginning that is not blank. -/
theorem head?_trim {t : Text} (h : ∀ c, t.head? = some c → isBlank c = false) :
    (trim t).head? = t.head? := by
  cases t with
  | nil => rfl
  | cons c t =>
    rw [trim_of_head? h, ← List.nil_append (c :: t), trimEnd_append (h c rfl)]
    rfl

/-- A text with no blank at either end is trimmed. -/
theorem trim_of_ends {t : Text} (hhead : ∀ c, t.head? = some c → isBlank c = false)
    (hlast : ∀ c, t.getLast? = some c → isBlank c = false) : trim t = t := by
  rw [trim_of_head? hhead, trimEnd_eq_rdropWhile, List.rdropWhile_eq_self_iff]
  intro hne
  rw [hlast _ (List.getLast?_eq_some_getLast hne)]
  exact Bool.false_ne_true

/-- **Trimming twice is trimming once.** -/
theorem trim_trim (t : Text) : trim (trim t) = trim t := by
  rw [trim_of_head? fun c hc ↦ not_blank_head?_trim hc]
  exact List.rdropWhile_idempotent _ _

/-- A trimmed text begins with no blank. -/
theorem not_blank_head?_of_trim_eq {t : Text} (ht : trim t = t) {c : Char}
    (h : t.head? = some c) : isBlank c = false :=
  not_blank_head?_trim (ht.symm ▸ h)

theorem trimEnd_eq_of_trim_eq {t : Text} (ht : trim t = t) : trimEnd t = t := by
  rwa [trim_of_head? fun c hc ↦ not_blank_head?_of_trim_eq ht hc] at ht

/-- A trimmed text ends with no blank. -/
theorem not_blank_getLast?_of_trim_eq {t : Text} (ht : trim t = t) {c : Char}
    (h : t.getLast? = some c) : isBlank c = false := by
  have hlast := List.rdropWhile_eq_self_iff.mp (trimEnd_eq_of_trim_eq ht)
  obtain ⟨s, rfl⟩ := List.getLast?_eq_some_iff.mp h
  simpa using hlast (by simp)

theorem trim_blank_cons {c : Char} (h : isBlank c = true) (t : Text) : trim (c :: t) = trim t := by
  rw [trim, trim, trimStart_cons_of_blank h]

/-- Blanks after a text are trimmed off. -/
theorem trim_concat_blank {c : Char} (h : isBlank c = true) (t : Text) :
    trim (t ++ [c]) = trim t := by
  by_cases ht : ∀ d ∈ t, isBlank d = true
  · have hs : trimStart t = [] := List.dropWhile_eq_nil_iff.mpr ht
    have hs' : trimStart (t ++ [c]) = [] :=
      List.dropWhile_eq_nil_iff.mpr fun d hd ↦ by
        rcases List.mem_append.mp hd with hd | hd
        · exact ht d hd
        · exact List.mem_singleton.mp hd ▸ h
    rw [trim, trim, hs, hs']
  · have hs : trimStart (t ++ [c]) = trimStart t ++ [c] := by
      rw [trimStart, List.dropWhile_append, if_neg]
      · rfl
      · rw [List.isEmpty_iff, List.dropWhile_eq_nil_iff]
        exact ht
    rw [trim, hs, trimEnd_concat_blank h, trim]

/-- What trimming a text comes to does not depend on blanks at its end. -/
theorem trim_trimEnd (t : Text) : trim (trimEnd t) = trim t := by
  induction t using List.reverseRecOn with
  | nil => rfl
  | append_singleton t c ih =>
    by_cases hc : isBlank c = true
    · rw [trimEnd_concat_blank hc, ih, trim_concat_blank hc]
    · rw [trimEnd_eq_rdropWhile, List.rdropWhile_concat_neg _ _ _ hc]

/-! ### Cutting -/

/-- **A cut**: either there is no separator, and the text is the only piece, or the first piece ends
at the first separator. -/
theorem piecesUpTo_succ (sep : Char) (n : Nat) (t : Text) :
    (sep ∉ t ∧ piecesUpTo sep (n + 1) t = [t]) ∨
      ∃ a r, t = a ++ sep :: r ∧ sep ∉ a ∧ piecesUpTo sep (n + 1) t = a :: piecesUpTo sep n r := by
  induction t with
  | nil => exact .inl ⟨List.not_mem_nil, rfl⟩
  | cons c t ih =>
    by_cases hc : c = sep
    · refine .inr ⟨[], t, by rw [hc, List.nil_append], List.not_mem_nil, ?_⟩
      rw [piecesUpTo, if_pos hc]
    · rcases ih with ⟨hmem, h⟩ | ⟨a, r, rfl, hmem, h⟩
      · refine .inl ⟨?_, ?_⟩
        · rw [List.mem_cons, not_or]
          exact ⟨Ne.symm hc, hmem⟩
        · rw [piecesUpTo, if_neg hc, h]
      · refine .inr ⟨c :: a, r, rfl, ?_, ?_⟩
        · rw [List.mem_cons, not_or]
          exact ⟨Ne.symm hc, hmem⟩
        · rw [piecesUpTo, if_neg hc, h]

/-- The piece before a separator is cut off. -/
theorem piecesUpTo_append {sep : Char} {a : Text} (ha : sep ∉ a) (n : Nat) (r : Text) :
    piecesUpTo sep (n + 1) (a ++ sep :: r) = a :: piecesUpTo sep n r := by
  induction a with
  | nil => rw [List.nil_append, piecesUpTo, if_pos rfl]
  | cons c a ih =>
    rw [List.mem_cons, not_or] at ha
    rw [List.cons_append, piecesUpTo, if_neg (Ne.symm ha.1), ih ha.2]

/-- **A text in four pieces is these pieces with separators between them.** -/
theorem eq_of_piecesUpTo_three {sep : Char} {t a b c d : Text}
    (h : piecesUpTo sep 3 t = [a, b, c, d]) :
    t = a ++ sep :: (b ++ sep :: (c ++ sep :: d)) ∧ sep ∉ a ∧ sep ∉ b ∧ sep ∉ c := by
  obtain ⟨-, h₁⟩ | ⟨a', r, rfl, ha, h₁⟩ := piecesUpTo_succ sep 2 t
  · exact absurd (h₁.symm.trans h) (by simp)
  obtain ⟨rfl, hr⟩ := List.cons.inj (h₁.symm.trans h)
  obtain ⟨-, h₂⟩ | ⟨b', s, rfl, hb, h₂⟩ := piecesUpTo_succ sep 1 r
  · exact absurd (h₂.symm.trans hr) (by simp)
  obtain ⟨rfl, hs⟩ := List.cons.inj (h₂.symm.trans hr)
  obtain ⟨-, h₃⟩ | ⟨c', u, rfl, hc, h₃⟩ := piecesUpTo_succ sep 0 s
  · exact absurd (h₃.symm.trans hs) (by simp)
  obtain ⟨rfl, hu⟩ := List.cons.inj (h₃.symm.trans hs)
  rw [piecesUpTo, List.singleton_inj] at hu
  subst hu
  exact ⟨rfl, ha, hb, hc⟩

end StyleLinter.Text
