import StyleLinter.CommandLine.Stream
import StyleLinter.Proofs.Text.Fields
import StyleLinter.Proofs.Text.Pieces

/-!
# Lines that are not broken

A message that is not broken is printed line by line. Tabs become spaces, blanks at the end of a
line are dropped as far as the line is longer than the screen, and spaces at the end of a line are
always dropped. Nothing else is lost: **each character that is not blank is printed as often as it
occurs** (`count_linesText_unbroken`).

Without tabs, **the lines are printed as they are exactly if what is dropped from them is spaces**
(`linesText_unbroken_eq_iff`).
-/

namespace StyleLinter

open Console

variable {c : Char} {t u line : Text} {ls ls' : List Text} {n : Nat}

namespace Console

/-! ### Tabs -/

theorem expandTabs_cons (hc : c ≠ '\t') (n : Nat) (t : Text) :
    expandTabs n (c :: t) = c :: expandTabs (n + cellsOf c) t := by
  rw [expandTabs]
  exact fun h ↦ hc h

theorem expandTabs_of_not_mem (h : '\t' ∉ t) : expandTabs n t = t := by
  induction t generalizing n with
  | nil => rfl
  | cons c t ih =>
    rw [expandTabs_cons (List.ne_of_not_mem_cons h).symm, ih (List.not_mem_of_not_mem_cons h)]

theorem mem_expandTabs (h : c ∈ expandTabs n t) : c = ' ' ∨ c ≠ '\t' ∧ c ∈ t := by
  fun_induction expandTabs n t with
  | case1 => exact absurd h List.not_mem_nil
  | case2 start r k ih =>
    rcases List.mem_append.mp h with h | h
    · exact .inl (List.eq_of_mem_replicate h)
    · exact (ih h).imp_right fun h ↦ ⟨h.1, List.mem_cons_of_mem _ h.2⟩
  | case3 start d r hd ih =>
    rcases List.mem_cons.mp h with rfl | h
    · exact .inr ⟨fun h ↦ hd h, List.mem_cons_self⟩
    · exact (ih h).imp_right fun h ↦ ⟨h.1, List.mem_cons_of_mem _ h.2⟩

theorem count_expandTabs (hc : Text.isBlank c = false) (n : Nat) (t : Text) :
    (expandTabs n t).count c = t.count c := by
  have hspace : c ≠ ' ' := by rintro rfl; exact absurd hc (by decide)
  have htab : c ≠ '\t' := by rintro rfl; exact absurd hc (by decide)
  fun_induction expandTabs n t with
  | case1 => rfl
  | case2 start r k ih =>
    have hspaces : (List.replicate k ' ').count c = 0 :=
      List.count_eq_zero_of_not_mem fun h ↦ hspace (List.eq_of_mem_replicate h)
    rw [List.count_append, ih, hspaces, List.count_cons_of_ne htab.symm, Nat.zero_add]
  | case3 start d r _ ih => rw [List.count_cons, List.count_cons, ih]

/-- What stands before a tab is kept. -/
theorem exists_expandTabs_append (hu : '\t' ∉ u) (n : Nat) (t : Text) :
    ∃ m, expandTabs n (u ++ t) = u ++ expandTabs m t := by
  induction u generalizing n with
  | nil => exact ⟨n, rfl⟩
  | cons c u ih =>
    obtain ⟨m, hm⟩ := ih (List.not_mem_of_not_mem_cons hu) (n + cellsOf c)
    refine ⟨m, ?_⟩
    rw [List.cons_append, expandTabs_cons (List.ne_of_not_mem_cons hu).symm, hm]
    rfl

theorem expandTabs_append (hu : '\t' ∉ u) (n : Nat) (t : Text) :
    expandTabs n (t ++ u) = expandTabs n t ++ u := by
  fun_induction expandTabs n t with
  | case1 => exact expandTabs_of_not_mem hu
  | case2 start r k ih => rw [List.cons_append, expandTabs, ih, List.append_assoc]
  | case3 start d r hd ih => rw [List.cons_append, expandTabs_cons fun h ↦ hd h, ih]; rfl

/-! ### Blanks at the end of a line -/

/-- **Blanks are dropped** down to the width, and down to the last character that is not blank. -/
theorem dropExcessBlanks_eq (width : Nat) (line : Text) :
    dropExcessBlanks width line = line.take (max width (Text.trimEnd line).length) := by
  have hle : (Text.trimEnd line).length ≤ line.length := (Text.isPrefix_trimEnd line).length_le
  rw [dropExcessBlanks, List.take_eq_take_iff]
  omega

theorem trimEnd_prefix_dropExcessBlanks (width : Nat) (line : Text) :
    Text.trimEnd line <+: dropExcessBlanks width line := by
  rw [dropExcessBlanks_eq]
  refine List.prefix_of_prefix_length_le (Text.isPrefix_trimEnd line) (List.take_prefix _ _) ?_
  have hle : (Text.trimEnd line).length ≤ line.length := (Text.isPrefix_trimEnd line).length_le
  rw [List.length_take]
  omega

/-- What ends with a character that is not blank is kept, whatever follows it. -/
theorem prefix_dropExcessBlanks (hc : Text.isBlank c = false) (width : Nat) (u t : Text) :
    u ++ [c] <+: dropExcessBlanks width (u ++ c :: t) := by
  refine List.IsPrefix.trans ?_ (trimEnd_prefix_dropExcessBlanks _ _)
  rw [Text.trimEnd_append hc]
  exact ⟨Text.trimEnd t, by simp⟩

theorem dropExcessBlanks_concat (hc : Text.isBlank c = false) (width : Nat) (u : Text) :
    dropExcessBlanks width (u ++ [c]) = u ++ [c] := by
  rw [dropExcessBlanks_eq]
  exact List.IsPrefix.eq_of_length_le (List.take_prefix _ _) (by
    have := (prefix_dropExcessBlanks hc width u []).length_le
    rwa [dropExcessBlanks_eq] at this)

theorem count_rdropWhile {p : Char → Bool} (hc : p c = false) (t : Text) :
    (t.rdropWhile p).count c = t.count c := by
  have hout : c ∉ t.rtakeWhile p := fun h ↦
    Bool.noConfusion (hc.symm.trans (List.mem_rtakeWhile_imp h))
  conv_rhs => rw [← List.rdropWhile_append_rtakeWhile (p := p) (l := t), List.count_append,
    List.count_eq_zero_of_not_mem hout, Nat.add_zero]

theorem count_dropExcessBlanks (hc : Text.isBlank c = false) (width : Nat) (line : Text) :
    (dropExcessBlanks width line).count c = line.count c := by
  refine Nat.le_antisymm ?_ ?_
  · rw [dropExcessBlanks_eq]
    exact (List.take_sublist _ _).count_le c
  · rw [← count_rdropWhile hc line, ← Text.trimEnd_eq_rdropWhile]
    exact (trimEnd_prefix_dropExcessBlanks width line).sublist.count_le c

/-! ### Spaces at the end of a line -/

theorem trimSpaces_eq_rdropWhile (line : Text) : trimSpaces line = line.rdropWhile (· == ' ') := rfl

theorem trimSpaces_concat (hc : c ≠ ' ') (u : Text) : trimSpaces (u ++ [c]) = u ++ [c] := by
  rw [trimSpaces_eq_rdropWhile, List.rdropWhile_concat_neg _ _ _ (by simpa using hc)]

theorem count_trimSpaces (hc : c ≠ ' ') (line : Text) : (trimSpaces line).count c = line.count c :=
  count_rdropWhile (p := (· == ' ')) (beq_eq_false_iff_ne.mpr hc) line

theorem prefix_rdropWhile {p : Char → Bool} (hc : p c = false) (u t : Text) :
    u ++ [c] <+: (u ++ c :: t).rdropWhile p := by
  induction t using List.reverseRecOn with
  | nil =>
    have hkept : (u ++ [c]).rdropWhile p = u ++ [c] :=
      List.rdropWhile_concat_neg _ _ _ (by simp [hc])
    exact ⟨[], by rw [hkept, List.append_nil]⟩
  | append_singleton t d ih =>
    rw [← List.cons_append, ← List.append_assoc]
    by_cases hd : p d = true
    · rw [List.rdropWhile_concat_pos _ _ _ hd]
      exact ih
    · rw [List.rdropWhile_concat_neg _ _ _ hd]
      exact ⟨t ++ [d], by simp⟩

/-- **A line without its spaces is that of its front** exactly if the others are spaces. -/
theorem trimSpaces_take_iff (n : Nat) (line : Text) :
    trimSpaces (line.take n) = trimSpaces line ↔ ∀ c ∈ line.drop n, c = ' ' := by
  constructor
  · intro h c hc
    have hshort : (trimSpaces line).length ≤ n := by
      rw [← h]
      exact (List.rdropWhile_prefix _ _).length_le.trans (List.length_take_le _ _)
    rw [← List.rdropWhile_append_rtakeWhile (p := (· == ' ')) (l := line),
      ← trimSpaces_eq_rdropWhile, List.drop_append, List.drop_of_length_le hshort,
      List.nil_append] at hc
    have hspace := List.mem_rtakeWhile_imp (List.mem_of_mem_drop hc)
    exact beq_iff_eq.mp hspace
  · intro h
    conv_rhs => rw [← List.take_append_drop n line]
    rw [trimSpaces, trimSpaces, Text.dropEndWhile, Text.dropEndWhile, List.reverse_append,
      List.dropWhile_append_of_pos fun c hc ↦ beq_iff_eq.mpr (h c (List.mem_reverse.mp hc))]

end Console

namespace CommandLine

/-! ### Printed lines -/

/-- **The lines can be told from what is printed**, up to spaces at their ends. -/
theorem pieces_linesText (h : ∀ line ∈ ls, '\n' ∉ line) :
    Text.pieces '\n' (linesText ls) = ls.map trimSpaces ++ [[]] := by
  induction ls with
  | nil => rfl
  | cons line ls ih =>
    have hline : '\n' ∉ trimSpaces line := fun hmem ↦
      h line List.mem_cons_self ((List.rdropWhile_prefix _ _).subset hmem)
    rw [linesText, List.flatMap_cons, List.append_assoc, List.singleton_append,
      Text.pieces_append hline, ← linesText, ih fun l hl ↦ h l (List.mem_cons_of_mem _ hl)]
    rfl

theorem linesText_eq_iff (h : ∀ line ∈ ls, '\n' ∉ line) (h' : ∀ line ∈ ls', '\n' ∉ line) :
    linesText ls = linesText ls' ↔ ls.map trimSpaces = ls'.map trimSpaces := by
  constructor
  · intro heq
    have hpieces := congrArg (Text.pieces '\n') heq
    rw [pieces_linesText h, pieces_linesText h'] at hpieces
    exact List.append_cancel_right hpieces
  · intro heq
    have hmap (ls : List Text) : linesText ls = (ls.map trimSpaces).flatMap (· ++ ['\n']) := by
      rw [List.flatMap_map]
      rfl
    rw [hmap, heq, ← hmap]

theorem count_linesText (hc : c ≠ ' ') (hbreak : c ≠ '\n') (ls : List Text) :
    (linesText ls).count c = ls.flatten.count c := by
  induction ls with
  | nil => rfl
  | cons line ls ih =>
    have hend : ['\n'].count c = 0 :=
      List.count_eq_zero_of_not_mem fun h ↦ hbreak (List.mem_singleton.mp h)
    rw [linesText, List.flatMap_cons, ← linesText, List.count_append, List.count_append,
      count_trimSpaces hc, hend, ih, List.flatten_cons, List.count_append, Nat.add_zero]

theorem count_pieces (hc : c ≠ '\n') (t : Text) :
    (Text.pieces '\n' t).flatten.count c = t.count c := by
  fun_induction Text.pieces '\n' t with
  | case1 => rfl
  | case2 r ih => rw [List.flatten_cons, List.nil_append, ih, List.count_cons_of_ne hc.symm]
  | case3 d r _ hr _ => exact absurd hr (Text.pieces_ne_nil _ _)
  | case4 d r _ p ps hr ih =>
    rw [hr, List.flatten_cons] at ih
    rw [List.flatten_cons, List.cons_append, List.count_cons, ih, List.count_cons]

/-- **Characters that are not blank are all printed.** -/
theorem count_linesText_unbroken (hc : Text.isBlank c = false) (width : Nat) (t : Text) :
    (linesText (unbroken width t)).count c = t.count c := by
  have hspace : c ≠ ' ' := by rintro rfl; exact absurd hc (by decide)
  have hbreak : c ≠ '\n' := by rintro rfl; exact absurd hc (by decide)
  calc (linesText (unbroken width t)).count c
      = (unbroken width t).flatten.count c := count_linesText hspace hbreak _
    _ = (Text.pieces '\n' t).flatten.count c := by
        rw [unbroken, List.count_flatten, List.count_flatten, List.map_map]
        refine congrArg List.sum (List.map_congr_left fun line _ ↦ ?_)
        rw [Function.comp_apply, count_dropExcessBlanks hc, count_expandTabs hc]
    _ = t.count c := count_pieces hbreak t

theorem count_linesText_pieces (hc : c ≠ ' ') (hbreak : c ≠ '\n') (t : Text) :
    (linesText (Text.pieces '\n' t)).count c = t.count c := by
  rw [count_linesText hc hbreak, count_pieces hbreak]

/-- A line that is printed has characters of the text, and spaces. -/
theorem mem_of_mem_unbroken {width : Nat} (hline : line ∈ unbroken width t) (hc : c ∈ line) :
    c = ' ' ∨ c ≠ '\t' ∧ c ≠ '\n' ∧ c ∈ t := by
  obtain ⟨piece, hpiece, rfl⟩ := List.mem_map.mp hline
  rw [dropExcessBlanks_eq] at hc
  refine (mem_expandTabs (List.mem_of_mem_take hc)).imp_right fun ⟨htab, hmem⟩ ↦ ?_
  exact ⟨htab, fun h ↦ Text.not_mem_of_mem_pieces hpiece (h ▸ hmem),
    Text.mem_of_mem_pieces hpiece hmem⟩

/-- What is printed is what the text has, and spaces and line feeds. -/
theorem mem_linesText_unbroken {width : Nat} (h : c ∈ linesText (unbroken width t)) :
    c = ' ' ∨ c = '\n' ∨ c ≠ '\t' ∧ c ∈ t := by
  obtain ⟨line, hline, hc⟩ := List.mem_flatMap.mp h
  rcases List.mem_append.mp hc with hc | hc
  · refine (mem_of_mem_unbroken hline ((List.rdropWhile_prefix _ _).subset hc)).imp_right fun h ↦ ?_
    exact .inr ⟨h.1, h.2.2⟩
  · exact .inr (.inl (List.mem_singleton.mp hc))

/-- **Without tabs the lines are printed as they are** exactly if what is dropped from them is
spaces. -/
theorem linesText_unbroken_eq_iff (h : '\t' ∉ t) (width : Nat) :
    linesText (unbroken width t) = linesText (Text.pieces '\n' t) ↔
      ∀ line ∈ Text.pieces '\n' t,
        ∀ c ∈ line.drop (max width (Text.trimEnd line).length), c = ' ' := by
  have hunbroken : ∀ line ∈ unbroken width t, '\n' ∉ line := fun line hline hmem ↦
    (mem_of_mem_unbroken hline hmem).elim (by decide) fun h ↦ h.2.1 rfl
  rw [linesText_eq_iff hunbroken fun line hline ↦ Text.not_mem_of_mem_pieces hline, unbroken,
    List.map_map, List.map_inj_left]
  refine forall₂_congr fun line hline ↦ ?_
  have htab : '\t' ∉ line := fun hmem ↦ h (Text.mem_of_mem_pieces hline hmem)
  rw [Function.comp_apply, expandTabs_of_not_mem htab, dropExcessBlanks_eq, trimSpaces_take_iff]

/-! ### The two ends of what is printed -/

/-- What ends with a character that is not blank, and has no tabs and line feeds, is printed first.
-/
theorem prefix_linesText_unbroken (hc : Text.isBlank c = false) (htab : '\t' ∉ u)
    (hbreak : '\n' ∉ u) (width : Nat) (t : Text) :
    u ++ [c] <+: linesText (unbroken width (u ++ c :: t)) := by
  have hspace : c ≠ ' ' := by rintro rfl; exact absurd hc (by decide)
  have hfront : '\n' ∉ u ++ [c] := by
    rw [List.mem_append, List.mem_singleton, not_or]
    exact ⟨hbreak, by rintro rfl; exact absurd hc (by decide)⟩
  have htabs : '\t' ∉ u ++ [c] := by
    rw [List.mem_append, List.mem_singleton, not_or]
    exact ⟨htab, by rintro rfl; exact absurd hc (by decide)⟩
  obtain ⟨first, others, hpieces⟩ := Text.exists_pieces_append hfront t
  obtain ⟨start, hexpand⟩ := exists_expandTabs_append htabs 0 first
  obtain ⟨rest, hdrop⟩ := prefix_dropExcessBlanks hc width u (expandTabs start first)
  rw [List.append_cons u c (expandTabs start first)] at hdrop
  rw [List.append_cons u c t, unbroken, hpieces, List.map_cons, linesText, List.flatMap_cons,
    hexpand, ← hdrop, List.append_assoc u, List.append_assoc]
  exact (prefix_rdropWhile (p := (· == ' ')) (beq_eq_false_iff_ne.mpr hspace) u rest).trans
    (List.prefix_append _ _)

/-- What is printed first goes on with the character that comes next. -/
theorem not_prefix_linesText_unbroken {d : Char} {v : Text} {width : Nat}
    (hc : Text.isBlank c = false) (hne : c ≠ d) (htab : '\t' ∉ u) (hbreak : '\n' ∉ u) :
    ¬ u ++ d :: v <+: linesText (unbroken width (u ++ c :: t)) := by
  intro hprefix
  have hle : (u ++ [c]).length ≤ (u ++ d :: v).length := by
    simp only [List.length_append, List.length_cons, List.length_nil]
    omega
  have hboth := List.prefix_of_prefix_length_le
    (prefix_linesText_unbroken hc htab hbreak width t) hprefix hle
  rw [List.prefix_append_right_inj, List.cons_prefix_cons] at hboth
  exact hne hboth.1

/-- Two backslashes at the end are printed at the end. -/
theorem suffix_linesText_unbroken (width : Nat) (t : Text) :
    ['\\', '\\', '\n'] <:+ linesText (unbroken width (t ++ ['\\', '\\'])) := by
  obtain ⟨init, last, hpieces⟩ := Text.exists_pieces_concat '\n' t
  have hlast : dropExcessBlanks width (expandTabs 0 (last ++ ['\\', '\\'])) =
      expandTabs 0 last ++ ['\\'] ++ ['\\'] := by
    rw [expandTabs_append (by decide), List.append_cons]
    exact dropExcessBlanks_concat (by decide) _ _
  rw [unbroken, Text.pieces_append_of_not_mem (by decide) hpieces, List.map_append,
    List.map_singleton, hlast, linesText, List.flatMap_append, List.flatMap_singleton,
    trimSpaces_concat (by decide)]
  exact List.IsSuffix.trans ⟨expandTabs 0 last, by simp⟩ (List.suffix_append _ _)

/-- One backslash at the end is printed as one. -/
theorem not_suffix_linesText_pieces (h : ¬ ['\\'] <:+ t) :
    ¬ ['\\', '\\', '\n'] <:+ linesText (Text.pieces '\n' (t ++ ['\\'])) := by
  obtain ⟨init, last, hpieces⟩ := Text.exists_pieces_concat '\n' t
  have hlast : last <:+ t := by
    rw [← Text.joinWith_pieces '\n' t, hpieces, ← List.nil_append last,
      ← Text.joinWith_concat_append]
    exact List.suffix_append _ _
  rw [Text.pieces_append_of_not_mem (by decide) hpieces, linesText, List.flatMap_append,
    List.flatMap_singleton, trimSpaces_concat (by decide), ← linesText]
  rintro ⟨y, hy⟩
  have hend : y ++ ['\\'] = linesText init ++ last := by
    have hcancel : y ++ ['\\'] ++ ['\\', '\n'] = linesText init ++ last ++ ['\\', '\n'] := by
      simpa using hy
    exact List.append_cancel_right hcancel
  rcases List.eq_nil_or_concat last with rfl | ⟨last, c, rfl⟩
  · -- the line before ends with its line feed
    rcases List.eq_nil_or_concat init with rfl | ⟨init, line, rfl⟩
    · exact absurd hend (by simp [linesText])
    · rw [List.append_nil, List.concat_eq_append, linesText, List.flatMap_append,
        List.flatMap_singleton, ← List.append_assoc] at hend
      exact absurd (List.append_singleton_inj.mp hend).2 (by decide)
  · rw [List.concat_eq_append, ← List.append_assoc] at hend
    obtain rfl := (List.append_singleton_inj.mp hend).2
    exact h ((List.concat_eq_append ▸ List.suffix_append last ['\\']).trans hlast)

end CommandLine

end StyleLinter
