import StyleLinter.Proofs.Console.Tags

/-!
# Tags that close

Showing a marked-up text takes its tags one after the other and keeps the styles that are open. A
tag opens a style, closes the one that was opened last, or closes the one that it names (`Moves`),
and **a text can be shown exactly if its tags can be followed in this way from beginning to end**
(`exists_plain?_iff`). Nothing need be closed at the end.

Only a tag that begins with a slash closes anything, so a text in which no slash follows a left
bracket can be shown (`closesOnlyOpen_of_no_closing`).
-/

namespace StyleLinter.Console.Markup

variable {opened opened' left ts : List Text} {inside : Text} {ps : List Piece} {t : Text}

/-! ### One tag -/

/-- What a tag makes of the styles that are open, the innermost first. -/
inductive Moves : List Text → Text → List Text → Prop
  /-- A tag without a slash opens the style that it names. -/
  | opens {opened : List Text} {inside : Text} (h : ¬ ['/'] <+: tagName inside) :
    Moves opened inside (Style.normalize (tagName inside) :: opened)
  /-- A slash alone closes the style that was opened last. -/
  | closesLast {style : Text} {opened : List Text} {inside closed : Text}
    (h : tagName inside = '/' :: closed) (hclosed : Text.trim closed = []) :
    Moves (style :: opened) inside opened
  /-- A slash and a name close the innermost style of that name. -/
  | closes {opened : List Text} {inside closed : Text} (h : tagName inside = '/' :: closed)
    (hclosed : Text.trim closed ≠ []) (hmem : Style.normalize (Text.trim closed) ∈ opened) :
    Moves opened inside (opened.erase (Style.normalize (Text.trim closed)))

theorem step_of_opens (h : ¬ ['/'] <+: tagName inside) :
    step opened inside = .ok (Style.normalize (tagName inside) :: opened) := by
  have hstarts : ¬ Text.startsWith (tagName inside) "/" = true :=
    fun hprefix ↦ h (List.isPrefixOf_iff_prefix.mp hprefix)
  exact if_neg hstarts

theorem step_of_closes {closed : Text} (h : tagName inside = '/' :: closed) :
    step opened inside =
      if (Text.trim closed).isEmpty then
        match opened with
        | [] => .error (.nothingToClose inside)
        | _ :: others => .ok others
      else
        if opened.contains (Style.normalize (Text.trim closed)) then
          .ok (opened.erase (Style.normalize (Text.trim closed)))
        else .error (.nothingToClose inside) := by
  unfold step
  rw [h]
  rfl

/-- **A tag can be followed** exactly as far as there is something to close. -/
theorem step_eq_ok_iff : step opened inside = .ok opened' ↔ Moves opened inside opened' := by
  constructor
  · intro h
    by_cases hstarts : ['/'] <+: tagName inside
    · obtain ⟨closed, hname⟩ := hstarts
      rw [step_of_closes hname.symm] at h
      split at h
      case isTrue hempty =>
        cases opened with
        | nil => exact absurd h nofun
        | cons style others =>
          cases h
          exact .closesLast hname.symm (List.isEmpty_iff.mp hempty)
      case isFalse hempty =>
        obtain ⟨hmem, h⟩ := (ite_eq_iff.mp h).resolve_right fun h ↦ absurd h.2 nofun
        cases h
        exact .closes hname.symm (mt List.isEmpty_iff.mpr hempty) (List.contains_iff_mem.mp hmem)
    · rw [step_of_opens hstarts] at h
      cases h
      exact .opens hstarts
  · intro h
    cases h with
    | opens hname => exact step_of_opens hname
    | closesLast hname hclosed =>
      rw [step_of_closes hname, hclosed]
      rfl
    | closes hname hclosed hmem =>
      rw [step_of_closes hname, if_neg (mt List.isEmpty_iff.mp hclosed),
        if_pos (List.contains_iff_mem.mpr hmem)]

/-! ### All tags of a text -/

/-- The tags among the pieces. -/
def tags (ps : List Piece) : List Text :=
  ps.filterMap fun
    | .shown _ => none
    | .tag inside => some inside

/-- What tags, one after the other, make of the styles that are open. -/
inductive Follows : List Text → List Text → List Text → Prop
  /-- There are no tags. -/
  | nil {opened : List Text} : Follows opened [] opened
  /-- The first tag, and then the others. -/
  | cons {opened opened' left : List Text} {inside : Text} {ts : List Text}
    (h : Moves opened inside opened') (hts : Follows opened' ts left) :
    Follows opened (inside :: ts) left

/-- Does every closing tag of the text find something to close? -/
def ClosesOnlyOpen (t : Text) : Prop := ∃ left, Follows [] (tags (pieces t)) left

/-- **Pieces can be shown** exactly if their tags can be followed. -/
theorem exists_showPieces_iff :
    (∃ shown, showPieces opened ps = .ok shown) ↔ ∃ left, Follows opened (tags ps) left := by
  induction ps generalizing opened with
  | nil => exact ⟨fun _ ↦ ⟨_, .nil⟩, fun _ ↦ ⟨_, rfl⟩⟩
  | cons p ps ih =>
    cases p with
    | shown t =>
      rw [showPieces]
      refine Iff.trans ⟨?_, ?_⟩ ih
      · rintro ⟨_, h⟩
        obtain ⟨shown, h, -⟩ := map_eq_ok_iff.mp h
        exact ⟨shown, h⟩
      · rintro ⟨shown, h⟩
        exact ⟨_, map_eq_ok_iff.mpr ⟨shown, h, rfl⟩⟩
    | tag inside =>
      rw [showPieces]
      constructor
      · rintro ⟨shown, h⟩
        split at h
        case h_1 opened' hstep =>
          obtain ⟨left, hleft⟩ := ih.mp ⟨shown, h⟩
          exact ⟨left, .cons (step_eq_ok_iff.mp hstep) hleft⟩
        case h_2 => exact absurd h nofun
      · rintro ⟨left, hleft⟩
        obtain ⟨⟩ | ⟨hmoves, hleft⟩ := hleft
        rw [step_eq_ok_iff.mpr hmoves]
        exact ih.mpr ⟨left, hleft⟩

/-- **A marked-up text can be shown** exactly if it closes only what is open. -/
theorem exists_plain?_iff : (∃ shown, plain? t = .ok shown) ↔ ClosesOnlyOpen t :=
  exists_showPieces_iff

/-! ### Texts without closing tags -/

/-- A tag of a text stands there between its brackets. -/
theorem infix_of_mem_tags (h : inside ∈ tags (pieces t)) : bracketed inside <:+: t := by
  induction t using tags_induction with
  | clear t ht =>
    rw [pieces_of_isClear ht, shownUnlessEmpty] at h
    split at h <;> exact absurd h List.not_mem_nil
  | tag front n inside' rest hfront hinside ih =>
    have hshown (t : Text) : tags (shownUnlessEmpty t) = [] := by
      rw [shownUnlessEmpty]
      split <;> rfl
    rw [pieces_append_tag hfront n hinside, tags, List.filterMap_append, List.filterMap_append,
      List.filterMap_append] at h
    change inside ∈ tags (shownUnlessEmpty front) ++ tags (shownUnlessEmpty _) ++ tags [_]
      ++ tags (pieces rest) at h
    rw [hshown, hshown, List.nil_append, List.nil_append] at h
    rcases List.mem_append.mp h with h | h
    · split at h
      · exact absurd h List.not_mem_nil
      · cases List.mem_singleton.mp h
        exact ⟨front ++ List.replicate n '\\', rest, rfl⟩
    · exact (ih h).trans (List.suffix_append _ _).isInfix

theorem exists_follows_of_opens (h : ∀ inside ∈ ts, ¬ ['/'] <+: tagName inside) :
    ∃ left, Follows opened ts left := by
  induction ts generalizing opened with
  | nil => exact ⟨_, .nil⟩
  | cons inside ts ih =>
    obtain ⟨left, hleft⟩ := ih fun other hother ↦ h other (List.mem_cons_of_mem _ hother)
    exact ⟨left, .cons (.opens (h inside List.mem_cons_self)) hleft⟩

/-- **A text in which no slash follows a left bracket** closes nothing. -/
theorem closesOnlyOpen_of_no_closing (h : ¬ ['[', '/'] <:+: t) : ClosesOnlyOpen t := by
  refine exists_follows_of_opens fun inside hinside hslash ↦ h ?_
  have hprefix : ['/'] <+: inside := hslash.trans (List.takeWhile_prefix _)
  exact (List.prefix_cons_iff.mpr (.inr ⟨['/'], rfl, hprefix.trans (List.prefix_append _ _)⟩)
    |>.isInfix).trans (infix_of_mem_tags hinside)

end StyleLinter.Console.Markup
