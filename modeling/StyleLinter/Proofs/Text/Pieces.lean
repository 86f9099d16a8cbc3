import StyleLinter.Text.Basic

/-!
# Joining pieces

`pieces` and `joinWith` are inverse to each other: pieces that hold no separator are cut where they
were joined (`pieces_joinWith`), no piece of any text holds one (`not_mem_of_mem_pieces`), and the
pieces of any text are joined to it (`joinWith_pieces`).
-/

namespace StyleLinter.Text

variable {sep : Char}

theorem pieces_cons_sep (t : Text) : pieces sep (sep :: t) = [] :: pieces sep t := if_pos rfl

theorem pieces_ne_nil (sep : Char) (t : Text) : pieces sep t ≠ [] := by
  cases t with
  | nil => nofun
  | cons c t =>
    rw [pieces]
    split
    · nofun
    · split <;> nofun

/-- A character that is no separator belongs to the first piece. -/
theorem exists_pieces_cons {c : Char} (hc : c ≠ sep) (t : Text) : ∃ first others,
    pieces sep t = first :: others ∧ pieces sep (c :: t) = (c :: first) :: others := by
  obtain ⟨first, others, ht⟩ := List.exists_cons_of_ne_nil (pieces_ne_nil sep t)
  refine ⟨first, others, ht, (if_neg hc).trans ?_⟩
  rw [ht]

theorem pieces_of_not_mem {t : Text} (h : sep ∉ t) : pieces sep t = [t] := by
  induction t with
  | nil => rfl
  | cons c t ih =>
    rw [List.mem_cons, not_or] at h
    obtain ⟨first, others, ht, hct⟩ := exists_pieces_cons (Ne.symm h.1) t
    rw [ih h.2] at ht
    obtain ⟨rfl, rfl⟩ := List.cons.inj ht
    exact hct

/-- **A text is cut at each of its separators.** -/
theorem pieces_append_sep (a t : Text) :
    pieces sep (a ++ sep :: t) = pieces sep a ++ pieces sep t := by
  induction a with
  | nil => exact pieces_cons_sep t
  | cons c a ih =>
    by_cases hc : c = sep
    · subst hc
      rw [List.cons_append, pieces_cons_sep, pieces_cons_sep, ih, List.cons_append]
    · obtain ⟨first, others, ha, hca⟩ := exists_pieces_cons hc a
      obtain ⟨first', others', hat, hcat⟩ := exists_pieces_cons hc (a ++ sep :: t)
      rw [ih, ha, List.cons_append] at hat
      obtain ⟨rfl, rfl⟩ := List.cons.inj hat
      rw [List.cons_append, hcat, hca, List.cons_append]

/-- A text is cut at its first separator. -/
theorem pieces_append {a : Text} (ha : sep ∉ a) (t : Text) :
    pieces sep (a ++ sep :: t) = a :: pieces sep t := by
  rw [pieces_append_sep, pieces_of_not_mem ha]
  rfl

/-- **No piece holds a separator.** -/
theorem not_mem_of_mem_pieces {t p : Text} (h : p ∈ pieces sep t) : sep ∉ p := by
  induction t generalizing p with
  | nil =>
    rw [pieces, List.mem_singleton] at h
    rw [h]
    exact List.not_mem_nil
  | cons c t ih =>
    by_cases hc : c = sep
    · subst hc
      rw [pieces_cons_sep] at h
      rcases List.mem_cons.mp h with rfl | h
      · exact List.not_mem_nil
      · exact ih h
    · obtain ⟨first, others, ht, hct⟩ := exists_pieces_cons hc t
      rw [hct] at h
      rw [ht] at ih
      rcases List.mem_cons.mp h with rfl | h
      · rw [List.mem_cons, not_or]
        exact ⟨Ne.symm hc, ih List.mem_cons_self⟩
      · exact ih (List.mem_cons_of_mem _ h)

theorem joinWith_cons {s t : Text} {ts : List Text} (h : ts ≠ []) :
    joinWith s (t :: ts) = t ++ s ++ joinWith s ts := by
  obtain ⟨u, us, rfl⟩ := List.exists_cons_of_ne_nil h
  rfl

theorem joinWith_append {s : Text} {ts us : List Text} (ht : ts ≠ []) (hu : us ≠ []) :
    joinWith s (ts ++ us) = joinWith s ts ++ s ++ joinWith s us := by
  induction ts with
  | nil => exact absurd rfl ht
  | cons t ts ih =>
    by_cases hts : ts = []
    · subst hts
      exact joinWith_cons hu
    · have hne : ts ++ us ≠ [] := fun h ↦ hts (List.append_eq_nil_iff.mp h).1
      rw [List.cons_append, joinWith_cons hne, joinWith_cons hts, ih hts]
      simp only [List.append_assoc]

/-- What follows the joined pieces belongs to the last one. -/
theorem joinWith_concat_append (s : Text) (ts : List Text) (t u : Text) :
    joinWith s (ts ++ [t]) ++ u = joinWith s (ts ++ [t ++ u]) := by
  by_cases hts : ts = []
  · subst hts
    rfl
  · rw [joinWith_append hts (List.cons_ne_nil _ _), joinWith_append hts (List.cons_ne_nil _ _),
      List.append_assoc]
    rfl

/-- Fewer pieces make a shorter text. -/
theorem joinWith_sublist (s : Text) {us ts : List Text} (h : us.Sublist ts) :
    (joinWith s us).Sublist (joinWith s ts) := by
  induction h with
  | slnil => exact .refl _
  | @cons us ts t _ ih =>
    by_cases hts : ts = []
    · subst hts
      exact ih.trans (List.nil_sublist _)
    · rw [joinWith_cons hts]
      exact ih.trans (List.sublist_append_right _ _)
  | @cons_cons us ts t h ih =>
    by_cases hus : us = []
    · subst hus
      by_cases hts : ts = []
      · exact hts ▸ .refl _
      · rw [joinWith_cons hts, List.append_assoc]
        exact List.sublist_append_left _ _
    · have hts : ts ≠ [] := fun hts ↦ hus (List.sublist_nil.mp (hts ▸ h))
      rw [joinWith_cons hus, joinWith_cons hts]
      exact (List.Sublist.refl _).append ih

theorem mem_joinWith {c : Char} {s : Text} {ts : List Text} (h : c ∈ joinWith s ts) : c ∈ s ∨ ∃ t ∈ ts, c ∈ t := by
  induction ts with
  | nil => exact absurd h List.not_mem_nil
  | cons t ts ih =>
    by_cases hts : ts = []
    · subst hts
      exact .inr ⟨t, List.mem_singleton_self t, h⟩
    · rw [joinWith_cons hts, List.mem_append, List.mem_append] at h
      rcases h with (h | h) | h
      · exact .inr ⟨t, List.mem_cons_self, h⟩
      · exact .inl h
      · exact (ih h).imp_right fun ⟨u, hu, hc⟩ ↦ ⟨u, List.mem_cons_of_mem _ hu, hc⟩

theorem infix_joinWith {s t : Text} {ts : List Text} (h : t ∈ ts) : t <:+: joinWith s ts := by
  induction ts with
  | nil => exact absurd h List.not_mem_nil
  | cons u us ih =>
    by_cases hus : us = []
    · rw [hus, List.mem_singleton] at h
      rw [hus, h]
      exact List.infix_rfl
    · rw [joinWith_cons hus, List.append_assoc]
      rcases List.mem_cons.mp h with rfl | h
      · exact (List.prefix_append _ _).isInfix
      · exact ((ih h).trans (List.suffix_append s _).isInfix).trans (List.suffix_append u _).isInfix

theorem mem_joinWith_of_mem {c : Char} {s t : Text} {ts : List Text} (ht : t ∈ ts) (hc : c ∈ t) :
    c ∈ joinWith s ts :=
  (infix_joinWith ht).subset hc

/-- **Pieces are cut where they were joined.** -/
theorem pieces_joinWith {ts : List Text} (hne : ts ≠ []) (h : ∀ t ∈ ts, sep ∉ t) :
    pieces sep (joinWith [sep] ts) = ts := by
  induction ts with
  | nil => exact absurd rfl hne
  | cons t ts ih =>
    have ht := h t List.mem_cons_self
    by_cases hts : ts = []
    · subst hts
      exact pieces_of_not_mem ht
    · rw [joinWith_cons hts, List.append_assoc, List.singleton_append, pieces_append ht,
        ih hts fun u hu ↦ h u (List.mem_cons_of_mem _ hu)]

theorem exists_pieces_concat (sep : Char) (t : Text) :
    ∃ init last, pieces sep t = init ++ [last] := by
  obtain ⟨init, last, h⟩ := (List.eq_nil_or_concat _).resolve_left (pieces_ne_nil sep t)
  exact ⟨init, last, h.trans (List.concat_eq_append ..)⟩

/-- **Pieces are joined to what was cut.** -/
theorem joinWith_pieces (sep : Char) (t : Text) : joinWith [sep] (pieces sep t) = t := by
  induction t with
  | nil => rfl
  | cons c t ih =>
    by_cases hc : c = sep
    · subst hc
      rw [pieces_cons_sep, joinWith_cons (pieces_ne_nil c t), ih]
      rfl
    · obtain ⟨first, others, ht, hct⟩ := exists_pieces_cons hc t
      rw [ht] at ih
      rw [hct]
      by_cases hothers : others = []
      · subst hothers
        exact congrArg (c :: ·) ih
      · rw [joinWith_cons hothers] at ih ⊢
        exact congrArg (c :: ·) ih

theorem infix_of_mem_pieces {t piece : Text} (h : piece ∈ pieces sep t) : piece <:+: t :=
  joinWith_pieces sep t ▸ infix_joinWith h

theorem mem_of_mem_pieces {c : Char} {t piece : Text} (h : piece ∈ pieces sep t) (hc : c ∈ piece) :
    c ∈ t :=
  (infix_of_mem_pieces h).subset hc

/-- What follows a text without another separator belongs to its last piece. -/
theorem pieces_append_of_not_mem {t u last : Text} {init : List Text} (hu : sep ∉ u)
    (h : pieces sep t = init ++ [last]) : pieces sep (t ++ u) = init ++ [last ++ u] := by
  have hmem : ∀ q ∈ init ++ [last], sep ∉ q := h ▸ fun q hq ↦ not_mem_of_mem_pieces hq
  rw [← joinWith_pieces sep t, h, joinWith_concat_append]
  have hlast : sep ∉ last ++ u := by
    rw [List.mem_append, not_or]
    exact ⟨hmem last List.mem_concat_self, hu⟩
  exact pieces_joinWith (List.append_ne_nil_of_right_ne_nil _ (List.cons_ne_nil _ _))
    (List.forall_mem_append.mpr ⟨fun q hq ↦ hmem q (List.mem_append_left _ hq),
      List.forall_mem_singleton.mpr hlast⟩)

/-- What comes before a text, without a separator, belongs to its first piece. -/
theorem exists_pieces_append {u : Text} (hu : sep ∉ u) (t : Text) :
    ∃ first others, pieces sep (u ++ t) = (u ++ first) :: others := by
  induction u with
  | nil =>
    obtain ⟨first, others, h⟩ := List.exists_cons_of_ne_nil (pieces_ne_nil sep t)
    exact ⟨first, others, h⟩
  | cons c u ih =>
    obtain ⟨first, others, h⟩ := ih (List.not_mem_of_not_mem_cons hu)
    obtain ⟨first', others', h', hc⟩ :=
      exists_pieces_cons (List.ne_of_not_mem_cons hu).symm (u ++ t)
    obtain ⟨rfl, rfl⟩ := List.cons.inj (h.symm.trans h')
    exact ⟨first, others, hc⟩

end StyleLinter.Text
