import StyleLinter.Kind
import StyleLinter.Proofs.Text.Lines

/-!
# The characters of tags

A tag should be an upper-case word (`IsUpperWord`): an upper-case letter, and then upper-case
letters, digits and underscores, all of them of ASCII. It is read character by character, and on the
way a line feed at its end is let pass. So **the tags are the upper-case words, with a line feed
behind them or without** (`isTag_iff`).

What is known of the characters of a tag follows from this. Each of them is an inner character or a
line feed (`isInner_or_eq_newline`), and a line feed stands at the end or nowhere
(`getLast?_of_mem_newline`).
-/

namespace StyleLinter.Kind

variable {c : Char} {kind tag : Text}

/-! ### Characters -/

theorem isInitial_iff : isInitial c = true ↔ c.isUpper = true := by
  rw [isInitial, Bool.and_eq_true, decide_eq_true_eq, decide_eq_true_eq]
  exact decide_eq_true_iff.symm

theorem isInner_iff : isInner c = true ↔ c.isUpper = true ∨ c.isDigit = true ∨ c = '_' := by
  have hdigit : ('0' ≤ c && c ≤ '9') = true ↔ c.isDigit = true := by
    rw [Bool.and_eq_true, decide_eq_true_eq, decide_eq_true_eq]
    exact Char.isDigit_iff_toNat.symm
  rw [isInner, Bool.or_eq_true, Bool.or_eq_true, isInitial_iff, hdigit, beq_iff_eq, or_assoc]

theorem isInner_of_isInitial (h : isInitial c = true) : isInner c = true :=
  isInner_iff.mpr (.inl (isInitial_iff.mp h))

/-- The characters of a tag are printable ASCII, and none of them is a colon. -/
theorem toNat_of_isInner (h : isInner c = true) :
    0x30 ≤ c.toNat ∧ c.toNat ≤ 0x5f ∧ c ≠ ':' := by
  have hcolon : c ≠ ':' := by
    rintro rfl
    exact absurd h (by decide)
  have hle : ∀ a b : Char, a ≤ b ↔ a.toNat ≤ b.toNat := fun _ _ ↦ Iff.rfl
  simp only [isInner, isInitial, Bool.or_eq_true, Bool.and_eq_true, decide_eq_true_eq, beq_iff_eq,
    hle] at h
  have hA : 'A'.toNat = 65 := rfl
  have hZ : 'Z'.toNat = 90 := rfl
  have h0 : '0'.toNat = 48 := rfl
  have h9 : '9'.toNat = 57 := rfl
  rcases h with (h | h) | rfl
  · exact ⟨by omega, by omega, hcolon⟩
  · exact ⟨by omega, by omega, hcolon⟩
  · decide

theorem not_isLineBreak_of_isInner (h : isInner c = true) : Text.isLineBreak c = false := by
  obtain ⟨hlow, hhigh, -⟩ := toNat_of_isInner h
  exact Text.not_isLineBreak_of_toNat (by omega) (by omega)

/-! ### Words -/

/-- **An upper-case word**: an upper-case letter, and then upper-case letters, digits and
underscores. The classes of characters are those of ASCII. -/
def IsUpperWord (kind : Text) : Prop :=
  ∃ c t, kind = c :: t ∧ c.isUpper = true ∧ ∀ d ∈ t, d.isUpper = true ∨ d.isDigit = true ∨ d = '_'

/-- A word begins with an initial character and goes on with inner ones. -/
theorem isUpperWord_iff : IsUpperWord kind ↔
    ∃ c t, kind = c :: t ∧ isInitial c = true ∧ ∀ d ∈ t, isInner d = true := by
  simp only [IsUpperWord, isInitial_iff, isInner_iff]

theorem IsUpperWord.isInner (h : IsUpperWord kind) : ∀ c ∈ kind, isInner c = true := by
  obtain ⟨c, t, rfl, hc, ht⟩ := isUpperWord_iff.mp h
  exact List.forall_mem_cons.mpr ⟨isInner_of_isInitial hc, ht⟩

theorem IsUpperWord.newline_not_mem (h : IsUpperWord kind) : '\n' ∉ kind := fun hmem ↦
  absurd (h.isInner '\n' hmem) (by decide)

/-! ### Tags -/

/-- Inner characters are passed over. -/
theorem isTail_append {u : Text} (hu : ∀ c ∈ u, isInner c = true) (t : Text) :
    isTail (u ++ t) = isTail t := by
  induction u with
  | nil => rfl
  | cons c u ih =>
    have hc : isInner c = true := hu c List.mem_cons_self
    -- the second case of `isTail` is about a line feed, which is no inner character
    have hnewline : c ≠ '\n' := fun h ↦ absurd (h ▸ hc) (by decide)
    rw [List.cons_append, isTail.eq_3 _ _ fun h _ ↦ hnewline h, hc, Bool.true_and]
    exact ih fun d hd ↦ hu d (List.mem_cons_of_mem _ hd)

/-- A tag goes on with inner characters, and nothing or a line feed behind them. -/
theorem exists_of_isTail {t : Text} (h : isTail t = true) :
    ∃ u, (∀ c ∈ u, isInner c = true) ∧ (t = u ∨ t = u ++ ['\n']) := by
  fun_induction isTail t with
  | case1 => exact ⟨[], nofun, .inl rfl⟩
  | case2 => exact ⟨[], nofun, .inr rfl⟩
  | case3 c r _ ih =>
    obtain ⟨hc, hr⟩ := Bool.and_eq_true_iff.mp h
    obtain ⟨u, hu, ht⟩ := ih hr
    exact ⟨c :: u, List.forall_mem_cons.mpr ⟨hc, hu⟩, ht.imp (congrArg _) (congrArg _)⟩

/-- Without a line feed at its end, if it has one, a tag is a word. -/
theorem exists_word_of_isTag (h : isTag kind = true) :
    ∃ tag, IsUpperWord tag ∧ (kind = tag ∨ kind = tag ++ ['\n']) := by
  cases kind with
  | nil => exact absurd h (by decide)
  | cons c t =>
    obtain ⟨hc, ht⟩ := Bool.and_eq_true_iff.mp h
    obtain ⟨u, hu, ht⟩ := exists_of_isTail ht
    exact ⟨c :: u, isUpperWord_iff.mpr ⟨c, u, rfl, hc, hu⟩, ht.imp (congrArg _) (congrArg _)⟩

/-- What follows a word decides whether the whole is a tag. -/
theorem IsUpperWord.isTag_append (h : IsUpperWord tag) (t : Text) : isTag (tag ++ t) = isTail t := by
  obtain ⟨c, u, rfl, hc, hu⟩ := isUpperWord_iff.mp h
  rw [List.cons_append, isTag, hc, Bool.true_and, isTail_append hu]

theorem IsUpperWord.isTag (h : IsUpperWord kind) : isTag kind = true := by
  have htag := h.isTag_append []
  rwa [List.append_nil] at htag

/-- **The tags are the upper-case words**, with a line feed behind them or without. -/
theorem isTag_iff : isTag kind = true ↔
    ∃ tag, IsUpperWord tag ∧ (kind = tag ∨ kind = tag ++ ['\n']) := by
  refine ⟨exists_word_of_isTag, ?_⟩
  rintro ⟨tag, hword, rfl | rfl⟩
  · exact hword.isTag
  · exact hword.isTag_append ['\n']

/-- A tag without a line feed is a word. -/
theorem isUpperWord_iff_isTag : IsUpperWord kind ↔ isTag kind = true ∧ '\n' ∉ kind := by
  constructor
  · exact fun hword ↦ ⟨hword.isTag, hword.newline_not_mem⟩
  · rintro ⟨htag, hnewline⟩
    obtain ⟨tag, hword, rfl | rfl⟩ := exists_word_of_isTag htag
    · exact hword
    · exact absurd (List.mem_append_right tag List.mem_cons_self) hnewline

instance (kind : Text) : Decidable (IsUpperWord kind) := decidable_of_iff' _ isUpperWord_iff_isTag

/-- What a line feed is behind in a tag is a word. -/
theorem isUpperWord_of_isTag_concat (h : isTag (tag ++ ['\n']) = true) : IsUpperWord tag := by
  obtain ⟨word, hword, he | he⟩ := exists_word_of_isTag h
  · exact absurd (he ▸ List.mem_append_right tag List.mem_cons_self) hword.newline_not_mem
  · exact List.append_cancel_right he ▸ hword

/-- The characters of a tag are inner ones, but for a line feed. -/
theorem isInner_or_eq_newline (htag : isTag kind = true) (hc : c ∈ kind) :
    isInner c = true ∨ c = '\n' := by
  obtain ⟨tag, hword, rfl | rfl⟩ := exists_word_of_isTag htag
  · exact .inl (hword.isInner c hc)
  · exact (List.mem_append.mp hc).imp (hword.isInner c) List.mem_singleton.mp

/-- Without a line feed all characters of a tag are inner ones. -/
theorem isInner_of_mem (htag : isTag kind = true) (hn : '\n' ∉ kind) (hc : c ∈ kind) :
    isInner c = true :=
  (isUpperWord_iff_isTag.mpr ⟨htag, hn⟩).isInner c hc

/-- A line feed in a tag stands at its end. -/
theorem getLast?_of_mem_newline (htag : isTag kind = true) (h : '\n' ∈ kind) :
    kind.getLast? = some '\n' := by
  obtain ⟨tag, hword, rfl | rfl⟩ := exists_word_of_isTag htag
  · exact absurd h hword.newline_not_mem
  · exact List.getLast?_concat

end StyleLinter.Kind
