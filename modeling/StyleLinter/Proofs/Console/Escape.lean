import StyleLinter.Proofs.Console.Emoji
import StyleLinter.Proofs.Console.Markup

/-!
# What escaped text shows

Escaping a text takes the meaning of its tags away, so escaped text can always be shown
(`plain?_escape`). **It need not show the text.** A backslash at the end is doubled for what may
come after it, and it stays double if nothing does (`closed`). Everything else is taken in
stretches: what is clear, the backslashes before a tag, and the tag. Of each stretch, backslashes
before brackets and control characters are dropped, and codes for pictographs are replaced
(`showText`).

A stretch never gains colons, and it gains no backslashes if its colons are kept. So losses cannot
make up for each other (`count_eq_of_count_flatMap`): **a text whose colons and backslashes are all
shown has faithful stretches** (`isFaithful_of_count`), and it is shown as it is, apart from its
control characters (`showing_of_isFaithful`).
-/

namespace StyleLinter.Console.Markup

variable {t front inside rest : Text} {c : Char}

/-! ### Stretches -/

/-- The stretches of a text: clear text, the backslashes before a tag and the tag, in turn. -/
def stretches (t : Text) : List Text :=
  match _h : nextTag? t with
  | none => [t]
  | some (front, n, inside, rest) =>
    front :: List.replicate n '\\' :: bracketed inside :: stretches rest
termination_by t.length
decreasing_by exact length_of_nextTag? _h

theorem stretches_of_isClear (h : IsClear t) : stretches t = [t] := by
  rw [stretches]
  split
  · rfl
  · next hnext => cases (nextTag?_eq_none_iff.mpr h).symm.trans hnext

theorem stretches_append_tag (hfront : IsFront front) (n : Nat) (hinside : IsInside inside)
    (rest : Text) :
    stretches (front ++ List.replicate n '\\' ++ bracketed inside ++ rest) =
      front :: List.replicate n '\\' :: bracketed inside :: stretches rest := by
  have hnext := nextTag?_append hfront n hinside rest
  rw [stretches]
  split
  · next hnone => cases hnext.symm.trans hnone
  · next hsome =>
    cases hnext.symm.trans hsome
    rfl

/-- **The stretches of a text make it up.** -/
theorem flatten_stretches (t : Text) : (stretches t).flatten = t := by
  induction t using tags_induction with
  | clear t ht => rw [stretches_of_isClear ht, List.flatten_singleton]
  | tag front n inside rest hfront hinside ih =>
    rw [stretches_append_tag hfront n hinside, List.flatten_cons, List.flatten_cons,
      List.flatten_cons, ih, List.append_assoc, List.append_assoc]

/-- What the stretches of a text show. -/
def showing (t : Text) : Text := (stretches t).flatMap showText

theorem showing_of_isClear (h : IsClear t) : showing t = showText t := by
  rw [showing, stretches_of_isClear h, List.flatMap_singleton]

theorem showing_append_tag (hfront : IsFront front) (n : Nat) (hinside : IsInside inside)
    (rest : Text) :
    showing (front ++ List.replicate n '\\' ++ bracketed inside ++ rest) =
      showText front
        ++ (showText (List.replicate n '\\') ++ (showText (bracketed inside) ++ showing rest)) := by
  rw [showing, stretches_append_tag hfront n hinside]
  rfl

/-! ### Escaped tags -/

theorem escapeTags_of_isClear (h : IsClear t) : escapeTags t = t := by
  rw [escapeTags]
  split
  · rfl
  · next hnext => cases (nextTag?_eq_none_iff.mpr h).symm.trans hnext

theorem escapeTags_append_tag (hfront : IsFront front) (n : Nat) (hinside : IsInside inside)
    (rest : Text) :
    escapeTags (front ++ List.replicate n '\\' ++ bracketed inside ++ rest) =
      front ++ List.replicate (2 * n + 1) '\\' ++ bracketed inside ++ escapeTags rest := by
  have hnext := nextTag?_append hfront n hinside rest
  rw [escapeTags]
  split
  · next hnone => cases hnext.symm.trans hnone
  · next hsome =>
    cases hnext.symm.trans hsome
    simp [bracketed]

/-- **Text with its tags escaped shows its stretches.** -/
theorem plain?_escapeTags (t : Text) : plain? (escapeTags t) = .ok (showing t) := by
  induction t using tags_induction with
  | clear t ht =>
    rw [escapeTags_of_isClear ht, plain?_of_isClear ht, showing_of_isClear ht]
  | tag front n inside rest hfront hinside ih =>
    have hhalf : (2 * n + 1) / 2 = n := by omega
    have hodd : (2 * n + 1) % 2 = 1 := by omega
    have hrest : showPieces [] (pieces (escapeTags rest)) = .ok (showing rest) := ih
    rw [escapeTags_append_tag hfront n hinside, plain?, pieces_append_tag hfront _ hinside, hhalf,
      if_pos hodd, List.append_assoc, List.append_assoc, showPieces_shownUnlessEmpty,
      showPieces_shownUnlessEmpty, List.singleton_append, showPieces, hrest,
      showing_append_tag hfront n hinside]
    rfl

/-! ### What is put before a text -/

/-- Is the character shown wherever it stands? Brackets, backslashes and colons can have a meaning.
-/
def IsOrdinary (c : Char) : Prop := c ≠ '[' ∧ c ≠ '\\' ∧ c ≠ ':' ∧ isHidden c = false

instance : DecidablePred IsOrdinary := fun _ ↦ inferInstanceAs (Decidable (_ ∧ _))

theorem dropBracketEscapes_cons (hc : c ≠ '\\') (t : Text) :
    dropBracketEscapes (c :: t) = c :: dropBracketEscapes t := by
  rw [dropBracketEscapes]
  exact fun _ h ↦ absurd h hc

theorem visible_append (t u : Text) : visible (t ++ u) = visible t ++ visible u :=
  List.filter_append ..

theorem showText_cons (hc : IsOrdinary c) (t : Text) : showText (c :: t) = c :: showText t := by
  obtain ⟨-, hslash, hcolon, hhidden⟩ := hc
  rw [showText, dropBracketEscapes_cons hslash, Emoji.replace_cons hcolon]
  exact List.filter_cons_of_pos (by rw [hhidden]; rfl)

theorem isClear_cons (hc : c ≠ '[') (h : IsClear t) : IsClear (c :: t) := by
  refine isClear_cons_iff.mpr
    ⟨Option.eq_none_iff_forall_ne_some.mpr fun ⟨inside, rest⟩ htag ↦ ?_, h⟩
  exact hc (List.cons_eq_cons.mp (tag?_eq_some_iff.mp htag).2).1

theorem IsFront.cons (hc : c ≠ '[') (hslash : c ≠ '\\') (h : IsFront front) :
    IsFront (c :: front) where
  clear := isClear_cons hc h.clear
  last := by
    rw [List.getLast?_cons]
    cases hlast : front.getLast? with
    | none => exact fun heq ↦ hslash (Option.some.inj heq)
    | some d => exact fun heq ↦ h.last (hlast.trans heq)

theorem stretches_ne_nil (t : Text) : stretches t ≠ [] := by
  rw [stretches]
  split
  · exact List.cons_ne_nil _ _
  · exact List.cons_ne_nil _ _

/-- What is put before a text belongs to its first stretch, brackets and backslashes apart. -/
theorem exists_stretches_cons (hc : c ≠ '[') (hslash : c ≠ '\\') (t : Text) :
    ∃ first others, stretches t = first :: others ∧
      stretches (c :: t) = (c :: first) :: others := by
  induction t using tags_induction with
  | clear t ht => exact ⟨t, [], stretches_of_isClear ht, stretches_of_isClear (isClear_cons hc ht)⟩
  | tag front n inside rest hfront hinside ih =>
    exact ⟨front, _, stretches_append_tag hfront n hinside rest,
      stretches_append_tag (hfront.cons hc hslash) n hinside rest⟩

theorem exists_stretches_append {u : Text} (hopening : '[' ∉ u) (hslash : '\\' ∉ u) (t : Text) :
    ∃ first others, stretches t = first :: others ∧
      stretches (u ++ t) = (u ++ first) :: others := by
  induction u with
  | nil =>
    obtain ⟨first, others, hstretches⟩ := List.exists_cons_of_ne_nil (stretches_ne_nil t)
    exact ⟨first, others, hstretches, hstretches⟩
  | cons c u ih =>
    obtain ⟨first, others, hfirst, hrest⟩ :=
      ih (List.not_mem_of_not_mem_cons hopening) (List.not_mem_of_not_mem_cons hslash)
    obtain ⟨first', others', hfirst', hall⟩ :=
      exists_stretches_cons (List.ne_of_not_mem_cons hopening).symm
        (List.ne_of_not_mem_cons hslash).symm (u ++ t)
    obtain ⟨rfl, rfl⟩ := List.cons_eq_cons.mp (hrest.symm.trans hfirst')
    exact ⟨first, others, hfirst, hall⟩

/-- **An ordinary character is shown**, and what follows it is shown as if it stood alone. -/
theorem showing_cons (hc : IsOrdinary c) (t : Text) : showing (c :: t) = c :: showing t := by
  obtain ⟨first, others, hfirst, hall⟩ := exists_stretches_cons hc.1 hc.2.1 t
  rw [showing, hall, List.flatMap_cons, showText_cons hc, showing, hfirst, List.flatMap_cons,
    List.cons_append]

/-- **Ordinary text is shown.** -/
theorem showing_append {u : Text} (hu : ∀ c ∈ u, IsOrdinary c) (t : Text) :
    showing (u ++ t) = u ++ showing t := by
  induction u with
  | nil => rfl
  | cons c u ih =>
    rw [List.cons_append, showing_cons (hu c List.mem_cons_self),
      ih fun d hd ↦ hu d (List.mem_cons_of_mem _ hd)]
    rfl

theorem dropBracketEscapes_append {u : Text} (hslash : '\\' ∉ u) (t : Text) :
    dropBracketEscapes (u ++ t) = u ++ dropBracketEscapes t := by
  induction u with
  | nil => rfl
  | cons c u ih =>
    rw [List.cons_append, dropBracketEscapes_cons (List.ne_of_not_mem_cons hslash).symm,
      ih (List.not_mem_of_not_mem_cons hslash)]
    rfl

/-- **A code at the beginning is replaced**, and what follows it is shown as if it stood alone. -/
theorem showing_code {code : Text} (hcode : Emoji.IsCode code) (hopening : '[' ∉ code)
    (hslash : '\\' ∉ code) (t : Text) :
    showing (':' :: (code ++ ':' :: t)) = visible (Emoji.meaning code) ++ showing t := by
  have hwhole (t : Text) : ':' :: (code ++ ':' :: t) = ':' :: code ++ [':'] ++ t := by simp
  obtain ⟨first, others, hfirst, hall⟩ := exists_stretches_append (u := ':' :: code ++ [':'])
    (by simpa using hopening) (by simpa using hslash) t
  have hshow : showText (':' :: code ++ [':'] ++ first) =
      visible (Emoji.meaning code) ++ showText first := by
    rw [showText, dropBracketEscapes_append (by simpa using hslash), ← hwhole,
      Emoji.replace_of_code (Emoji.code?_append hcode _), visible_append]
    rfl
  rw [hwhole, showing, hall, List.flatMap_cons, hshow, showing, hfirst, List.flatMap_cons,
    List.append_assoc]

theorem escapeTags_cons (hc : c ≠ '[') (hslash : c ≠ '\\') (t : Text) :
    escapeTags (c :: t) = c :: escapeTags t := by
  induction t using tags_induction with
  | clear t ht => rw [escapeTags_of_isClear ht, escapeTags_of_isClear (isClear_cons hc ht)]
  | tag front n inside rest hfront hinside ih =>
    rw [escapeTags_append_tag hfront n hinside]
    exact escapeTags_append_tag (hfront.cons hc hslash) n hinside rest

/-! ### Backslashes at the end -/

theorem isClear_concat (hc : c ≠ ']') (h : IsClear t) : IsClear (t ++ [c]) := by
  intro inside hinside hmem
  rcases List.infix_concat_iff.mp hmem with hsuffix | hinfix
  · rcases List.suffix_concat_iff.mp hsuffix with hnil | ⟨w, hw, -⟩
    · exact absurd hnil (List.cons_ne_nil _ _)
    · rw [bracketed, ← List.cons_append] at hw
      exact hc (List.append_singleton_inj.mp hw).2.symm
  · exact h inside hinside hinfix

theorem dropBracketEscapes_concat (hc : c ≠ '[') (t : Text) :
    dropBracketEscapes (t ++ [c]) = dropBracketEscapes t ++ [c] := by
  fun_induction dropBracketEscapes t with
  | case1 =>
    rw [List.nil_append, dropBracketEscapes, dropBracketEscapes]
    exact fun r _ h ↦ List.cons_ne_nil _ _ h.symm
  | case2 r ih =>
    rw [List.cons_append, List.cons_append, dropBracketEscapes, ih]
    rfl
  | case3 d r hd ih =>
    rw [List.cons_append, dropBracketEscapes, ih]
    · rfl
    · intro r' hslash hr
      cases r with
      | nil => exact hc (List.cons_eq_cons.mp hr).1
      | cons e r =>
        obtain rfl : e = '[' := (List.cons_eq_cons.mp hr).1
        exact hd r hslash rfl

theorem showText_concat_slash (t : Text) : showText (t ++ ['\\']) = showText t ++ ['\\'] := by
  rw [showText, dropBracketEscapes_concat (by decide), Emoji.replace_concat (by decide),
    visible_append]
  rfl

theorem showing_concat_slash (t : Text) : showing (t ++ ['\\']) = showing t ++ ['\\'] := by
  induction t using tags_induction with
  | clear t ht =>
    rw [showing_of_isClear ht, showing_of_isClear (isClear_concat (by decide) ht),
      showText_concat_slash]
  | tag front n inside rest hfront hinside ih =>
    rw [List.append_assoc, showing_append_tag hfront n hinside, showing_append_tag hfront n hinside,
      ih]
    simp only [List.append_assoc]

theorem escapeTags_concat_slash (t : Text) : escapeTags (t ++ ['\\']) = escapeTags t ++ ['\\'] := by
  induction t using tags_induction with
  | clear t ht =>
    rw [escapeTags_of_isClear ht, escapeTags_of_isClear (isClear_concat (by decide) ht)]
  | tag front n inside rest hfront hinside ih =>
    rw [List.append_assoc, escapeTags_append_tag hfront n hinside,
      escapeTags_append_tag hfront n hinside, ih, ← List.append_assoc]

/-- What ends behind a character that it does not have is what follows the character. -/
theorem suffix_append_iff {u v w : Text} (hc : c ∉ w) : w <:+ u ++ [c] ++ v ↔ w <:+ v := by
  refine ⟨fun ⟨y, hy⟩ ↦ ?_, fun h ↦ h.trans (List.suffix_append _ _)⟩
  rcases List.append_eq_append_iff.mp hy with ⟨z, hz, rfl⟩ | ⟨z, -, rfl⟩
  · rcases List.eq_nil_or_concat z with rfl | ⟨z, d, rfl⟩
    · exact List.suffix_rfl
    · rw [List.concat_eq_append, ← List.append_assoc] at hz
      obtain rfl := (List.append_singleton_inj.mp hz).2
      exact absurd (by simp) hc
  · exact List.suffix_append _ _

/-- Escaping tags does not change what a text ends with, up to the last tag. -/
theorem suffix_escapeTags_iff {w : Text} (hw : ']' ∉ w) : w <:+ escapeTags t ↔ w <:+ t := by
  induction t using tags_induction with
  | clear t ht => rw [escapeTags_of_isClear ht]
  | tag front n inside rest hfront hinside ih =>
    have hbracketed (u v : Text) :
        u ++ bracketed inside ++ v = u ++ '[' :: inside ++ [']'] ++ v := by simp [bracketed]
    rw [escapeTags_append_tag hfront n hinside, hbracketed, hbracketed, suffix_append_iff hw,
      suffix_append_iff hw, ih]

/-- The text with a single backslash at its end doubled. -/
def closed (t : Text) : Text :=
  if Text.endsWith t "\\" && !Text.endsWith t "\\\\" then t ++ "\\" else t

/-- **To escape a text** is to double a single backslash at its end and to escape the tags. -/
theorem escape_eq (t : Text) : escape t = escapeTags (closed t) := by
  have hends {w : Text} (hw : ']' ∉ w) : Text.endsWith (escapeTags t) w = Text.endsWith t w := by
    rw [Bool.eq_iff_iff, Text.endsWith, Text.endsWith, List.isSuffixOf_iff_suffix,
      List.isSuffixOf_iff_suffix, suffix_escapeTags_iff hw]
  have hescape : escape t = if Text.endsWith (escapeTags t) "\\"
      && !Text.endsWith (escapeTags t) "\\\\" then escapeTags t ++ "\\" else escapeTags t := rfl
  rw [hescape, hends (by decide), hends (by decide), closed]
  split
  · exact (escapeTags_concat_slash t).symm
  · rfl

/-- **Escaped text can be shown.** -/
theorem plain?_escape (t : Text) : plain? (escape t) = .ok (showing (closed t)) := by
  rw [escape_eq, plain?_escapeTags]

/-! ### What is lost -/

theorem count_visible (hc : isHidden c = false) (t : Text) : (visible t).count c = t.count c :=
  List.count_filter (by rw [hc]; rfl)

/-- Dropping backslashes drops nothing else. -/
theorem count_dropBracketEscapes (hc : c ≠ '\\') (t : Text) :
    (dropBracketEscapes t).count c = t.count c := by
  fun_induction dropBracketEscapes t with
  | case1 => rfl
  | case2 r ih =>
    rw [List.count_cons_of_ne hc.symm, List.count_cons, List.count_cons, ih]
  | case3 d r _ ih => rw [List.count_cons, List.count_cons, ih]

/-- **Backslashes are dropped** where one stands before a bracket. -/
theorem dropBracketEscapes_eq_self_iff :
    dropBracketEscapes t = t ↔ ¬ ['\\', '['] <:+: t := by
  fun_induction dropBracketEscapes t with
  | case1 => exact iff_of_true rfl (by simp)
  | case2 r _ =>
    refine iff_of_false (fun h ↦ ?_) fun h ↦ h (List.IsPrefix.isInfix ⟨r, rfl⟩)
    exact absurd (List.cons_eq_cons.mp h).1 (by decide)
  | case3 d r hd ih =>
    have hprefix : ¬ ['\\', '['] <+: d :: r := by
      rintro ⟨r', hr⟩
      obtain ⟨hslash, hr⟩ := List.cons_eq_cons.mp hr
      exact hd r' hslash.symm hr.symm
    rw [List.cons_inj_right, ih, List.infix_cons_iff, not_or]
    exact (and_iff_right hprefix).symm

theorem dropBracketEscapes_eq_or_count_lt (t : Text) :
    dropBracketEscapes t = t ∨ (dropBracketEscapes t).count '\\' < t.count '\\' := by
  fun_induction dropBracketEscapes t with
  | case1 => exact .inl rfl
  | case2 r ih =>
    have hle : (dropBracketEscapes r).count '\\' ≤ r.count '\\' :=
      ih.elim (fun h ↦ (congrArg (List.count '\\') h).le) Nat.le_of_lt
    refine .inr ?_
    rw [List.count_cons_of_ne (by decide), List.count_cons_self, List.count_cons_of_ne (by decide)]
    exact Nat.lt_succ_of_le hle
  | case3 d r _ ih =>
    rw [List.count_cons, List.count_cons]
    exact ih.imp (congrArg (d :: ·)) fun h ↦ Nat.add_lt_add_right h _

/-- **A stretch gains no colons**, and if it keeps them, its codes are kept. -/
theorem count_colon_showText_le (t : Text) : (showText t).count ':' ≤ t.count ':' := by
  rw [showText, count_visible (by decide), ← count_dropBracketEscapes (by decide) t]
  exact (Emoji.replace_eq_or_count_lt _).elim (fun h ↦ (congrArg (List.count ':') h).le)
    Nat.le_of_lt

theorem replace_of_count_colon (h : (showText t).count ':' = t.count ':') :
    Emoji.replace (dropBracketEscapes t) = dropBracketEscapes t := by
  rw [showText, count_visible (by decide), ← count_dropBracketEscapes (by decide) t] at h
  exact (Emoji.replace_eq_or_count_lt _).resolve_right (Nat.not_lt.mpr h.ge)

/-- **A stretch whose codes are kept gains no backslashes**, and if it keeps them, it has none
before a bracket. -/
theorem count_slash_showText_le
    (h : Emoji.replace (dropBracketEscapes t) = dropBracketEscapes t) :
    (showText t).count '\\' ≤ t.count '\\' := by
  rw [showText, count_visible (by decide), h]
  exact (dropBracketEscapes_eq_or_count_lt t).elim (fun h ↦ (congrArg (List.count '\\') h).le)
    Nat.le_of_lt

theorem dropBracketEscapes_of_count_slash
    (h : Emoji.replace (dropBracketEscapes t) = dropBracketEscapes t)
    (hcount : (showText t).count '\\' = t.count '\\') : dropBracketEscapes t = t := by
  rw [showText, count_visible (by decide), h] at hcount
  exact (dropBracketEscapes_eq_or_count_lt t).resolve_right (Nat.not_lt.mpr hcount.ge)

theorem count_flatMap_le {f : Text → Text} {ts : List Text}
    (hle : ∀ t ∈ ts, (f t).count c ≤ t.count c) : (ts.flatMap f).count c ≤ ts.flatten.count c := by
  induction ts with
  | nil => exact Nat.le_refl _
  | cons t ts ih =>
    rw [List.flatMap_cons, List.flatten_cons, List.count_append, List.count_append]
    exact Nat.add_le_add (hle t List.mem_cons_self)
      (ih fun u hu ↦ hle u (List.mem_cons_of_mem _ hu))

/-- **Losses cannot make up for each other**: if nothing is gained anywhere and nothing is lost on
the whole, nothing is lost anywhere. -/
theorem count_eq_of_count_flatMap {f : Text → Text} {ts : List Text}
    (hle : ∀ t ∈ ts, (f t).count c ≤ t.count c)
    (h : (ts.flatMap f).count c = ts.flatten.count c) : ∀ t ∈ ts, (f t).count c = t.count c := by
  induction ts with
  | nil => exact nofun
  | cons t ts ih =>
    have hhead := hle t List.mem_cons_self
    have htail := count_flatMap_le fun u hu ↦ hle u (List.mem_cons_of_mem t hu)
    rw [List.flatMap_cons, List.flatten_cons, List.count_append, List.count_append] at h
    intro u hu
    rcases List.mem_cons.mp hu with rfl | hu
    · omega
    · exact ih (fun v hv ↦ hle v (List.mem_cons_of_mem t hv)) (by omega) u hu

/-- Does the stretch show nothing but what it has, apart from control characters? -/
structure IsFaithful (s : Text) : Prop where
  codes : Emoji.replace s = s
  slashes : ¬ ['\\', '['] <:+: s

/-- **A text whose colons and backslashes are all shown** has faithful stretches. -/
theorem isFaithful_of_count (hcolons : (showing t).count ':' = t.count ':')
    (hslashes : (showing t).count '\\' = t.count '\\') : ∀ s ∈ stretches t, IsFaithful s := by
  nth_rewrite 2 [← flatten_stretches t] at hcolons hslashes
  have hkept (s : Text) (hs : s ∈ stretches t) :=
    replace_of_count_colon
      (count_eq_of_count_flatMap (fun s _ ↦ count_colon_showText_le s) hcolons s hs)
  have hdrop (s : Text) (hs : s ∈ stretches t) : dropBracketEscapes s = s :=
    dropBracketEscapes_of_count_slash (hkept s hs)
      (count_eq_of_count_flatMap (fun s hs ↦ count_slash_showText_le (hkept s hs)) hslashes s hs)
  intro s hs
  have hcodes := hkept s hs
  rw [hdrop s hs] at hcodes
  exact ⟨hcodes, dropBracketEscapes_eq_self_iff.mp (hdrop s hs)⟩

/-- **Faithful stretches show their text**, apart from control characters. -/
theorem showing_of_isFaithful (h : ∀ s ∈ stretches t, IsFaithful s) : showing t = visible t := by
  have hshow : ∀ s ∈ stretches t, showText s = visible s := fun s hs ↦ by
    rw [showText, dropBracketEscapes_eq_self_iff.mpr (h s hs).slashes, (h s hs).codes]
  calc showing t = (stretches t).flatMap visible := List.flatMap_congr hshow
    _ = visible (stretches t).flatten := (List.filter_flatten ..).symm
    _ = visible t := by rw [flatten_stretches]

end StyleLinter.Console.Markup
