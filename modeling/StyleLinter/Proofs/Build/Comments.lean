import StyleLinter.Build.Declarations
import StyleLinter.Proofs.Text.Search

/-!
# Comments of a build file made of declarations

Comments are taken out in two passes, blocks first and then the ends of the lines. Each pass works
its way through the text: what comes before the first block is kept (`withoutBlocks_append`), a
block that is closed goes (`withoutBlocks_comment`), and a line keeps what comes before its comment,
whatever the other lines are (`withoutEnds_append`, `beforeComment_append`).

Since blocks go first, one may also begin behind `--`, and then it goes on to the lines below.
-/

namespace StyleLinter.Build.Declarations

open Text

variable {t u b c front r rest : Text}

/-! ### Blocks -/

theorem withoutBlocks_of_none (h : cutAt? "/-" t = none) : withoutBlocks t = t := by
  unfold withoutBlocks
  split
  · rfl
  · next hsome => cases h.symm.trans hsome

/-- A block that is opened and not closed stays. -/
theorem withoutBlocks_of_open (h : cutAt? "/-" t = some (front, r)) (hclose : cutAt? "-/" r = none) :
    withoutBlocks t = t := by
  unfold withoutBlocks
  split
  · rfl
  · next hsome =>
    obtain ⟨rfl, rfl⟩ := Prod.mk.inj (Option.some.inj (h.symm.trans hsome))
    split
    · rfl
    · next hsome => cases hclose.symm.trans hsome

theorem withoutBlocks_of_some (h : cutAt? "/-" t = some (front, r))
    (hclose : cutAt? "-/" r = some (c, rest)) : withoutBlocks t = front ++ withoutBlocks rest := by
  rw [withoutBlocks]
  split
  · next hnone => cases h.symm.trans hnone
  · next hsome =>
    obtain ⟨rfl, rfl⟩ := Prod.mk.inj (Option.some.inj (h.symm.trans hsome))
    split
    · next hnone => cases hclose.symm.trans hnone
    · next hsome =>
      obtain ⟨rfl, rfl⟩ := Prod.mk.inj (Option.some.inj (hclose.symm.trans hsome))
      rfl

/-- Less is left behind a block. -/
theorem length_lt_of_block (h : cutAt? "/-" t = some (front, r))
    (hclose : cutAt? "-/" r = some (c, rest)) : rest.length < t.length := by
  have hmark : ("/-".toList).length = 2 := rfl
  rw [eq_of_cutAt? h, eq_of_cutAt? hclose]
  simp only [List.length_append, hmark]
  omega

/-- **What comes before the first block is kept.** -/
theorem withoutBlocks_append (hu : ¬ "/-".toList <:+: u)
    (hend : u.getLast? = some '/' → t.head? ≠ some '-') :
    withoutBlocks (u ++ t) = u ++ withoutBlocks t := by
  have hcut : cutAt? "/-" (u ++ t) = (cutAt? "/-" t).map fun x ↦ (u ++ x.1, x.2) :=
    cutAt?_pair_append hu hend
  cases hopen : cutAt? "/-" t with
  | none => rw [withoutBlocks_of_none hopen, withoutBlocks_of_none (by rw [hcut, hopen]; rfl)]
  | some x =>
    obtain ⟨front, r⟩ := x
    rw [hopen] at hcut
    cases hclose : cutAt? "-/" r with
    | none => rw [withoutBlocks_of_open hopen hclose, withoutBlocks_of_open hcut hclose]
    | some y => rw [withoutBlocks_of_some hopen hclose, withoutBlocks_of_some hcut hclose,
        List.append_assoc]

/-- **A block goes**, up to where it is first closed. -/
theorem withoutBlocks_comment (hu : ¬ "/-".toList <:+: u) (hc : ¬ "-/".toList <:+: c) (t : Text) :
    withoutBlocks (u ++ '/' :: '-' :: (c ++ '-' :: '/' :: t)) = u ++ withoutBlocks t :=
  withoutBlocks_of_some (cutAt?_pair hu (fun _ ↦ by decide) _) (cutAt?_pair hc (fun _ ↦ by decide) t)

/-- Lines that open no block are kept. -/
theorem withoutBlocks_beneath {ls : List Text} (hls : ∀ l ∈ ls, ¬ "/-".toList <:+: l)
    (ht : EndsLine t) : withoutBlocks (beneath ls ++ t) = beneath ls ++ withoutBlocks t := by
  induction ls with
  | nil => rfl
  | cons l ls ih =>
    have hl : ¬ "/-".toList <:+: '\n' :: l := by
      rw [List.infix_cons_iff, not_or]
      exact ⟨fun h ↦ absurd (List.cons_prefix_cons.mp h).1 (by decide), hls l List.mem_cons_self⟩
    have hbeneath : beneath (l :: ls) ++ t = '\n' :: l ++ (beneath ls ++ t) := by
      rw [beneath_cons, List.cons_append, List.append_assoc, List.cons_append]
    rw [hbeneath, withoutBlocks_append hl fun _ ↦ (ht.beneath_append ls).head?_ne (by decide),
      ih fun l hl ↦ hls l (List.mem_cons_of_mem _ hl), beneath_cons, List.cons_append,
      List.cons_append, List.append_assoc]

theorem withoutBlocks_newline (t : Text) : withoutBlocks ('\n' :: t) = '\n' :: withoutBlocks t :=
  withoutBlocks_append (u := ['\n']) (by decide) fun h ↦ absurd h (by decide)

theorem endsLine_withoutBlocks (ht : EndsLine t) : EndsLine (withoutBlocks t) := by
  cases ht with
  | nil =>
    rw [withoutBlocks_of_none rfl]
    exact .nil
  | cons t => exact withoutBlocks_newline t ▸ .cons _

/-! ### Ends of lines -/

/-- The text without the comments at the ends of its lines. -/
def withoutEnds (t : Text) : Text := joinWith "\n" ((pieces '\n' t).map beforeComment)

theorem beforeComment_of_not_infix (h : ¬ "--".toList <:+: t) : beforeComment t = t := by
  unfold beforeComment
  rw [show cutAt? "--" t = none from cutAt?_eq_none_iff.mpr h]

/-- A line keeps what comes before its comment. -/
theorem beforeComment_append (hb : ¬ "--".toList <:+: b) (hend : b.getLast? ≠ some '-') (c : Text) :
    beforeComment (b ++ '-' :: '-' :: c) = b := by
  unfold beforeComment
  rw [show cutAt? "--" (b ++ '-' :: '-' :: c) = some (b, c) from
    cutAt?_pair hb (fun h ↦ absurd h hend) c]

theorem map_beforeComment_ne_nil (t : Text) : (pieces '\n' t).map beforeComment ≠ [] :=
  mt List.map_eq_nil_iff.mp (pieces_ne_nil '\n' t)

theorem withoutEnds_newline (t : Text) : withoutEnds ('\n' :: t) = '\n' :: withoutEnds t := by
  unfold withoutEnds
  rw [pieces_cons_sep, List.map_cons, joinWith_cons (map_beforeComment_ne_nil t)]
  rfl

/-- **The lines are treated one by one.** -/
theorem withoutEnds_append (ht : EndsLine t) (u : Text) :
    withoutEnds (u ++ t) = withoutEnds u ++ withoutEnds t := by
  cases ht with
  | nil => rw [List.append_nil, show withoutEnds [] = [] from rfl, List.append_nil]
  | cons t =>
    rw [withoutEnds_newline]
    unfold withoutEnds
    rw [pieces_append_sep, List.map_append,
      joinWith_append (map_beforeComment_ne_nil u) (map_beforeComment_ne_nil t), List.append_assoc]
    rfl

theorem endsLine_withoutEnds (ht : EndsLine t) : EndsLine (withoutEnds t) := by
  cases ht with
  | nil => exact .nil
  | cons t =>
    rw [withoutEnds_newline]
    exact .cons _

theorem withoutEnds_of_not_infix (h : ¬ "--".toList <:+: t) : withoutEnds t = t := by
  have hmap : (pieces '\n' t).map beforeComment = pieces '\n' t :=
    (List.map_congr_left fun p hp ↦ beforeComment_of_not_infix fun hin ↦
      h (hin.trans (infix_of_mem_pieces hp))).trans (List.map_id' _)
  unfold withoutEnds
  rw [hmap]
  exact joinWith_pieces '\n' t

/-- **The rest of a line is a comment**, and what comes before it is kept. -/
theorem withoutEnds_comment (hb : ¬ "--".toList <:+: b) (hend : b.getLast? ≠ some '-')
    (hline : '\n' ∉ b) (hc : '\n' ∉ c) : withoutEnds (b ++ '-' :: '-' :: c) = b := by
  have hmem : '\n' ∉ b ++ '-' :: '-' :: c := by
    simp only [List.mem_append, List.mem_cons, not_or]
    exact ⟨hline, by decide, by decide, hc⟩
  unfold withoutEnds
  rw [pieces_of_not_mem hmem, List.map_singleton, beforeComment_append hb hend]
  rfl

/-! ### Comments -/

theorem withoutComments_eq (t : Text) : withoutComments t = withoutEnds (withoutBlocks t) := rfl

theorem withoutComments_newline (t : Text) :
    withoutComments ('\n' :: t) = '\n' :: withoutComments t := by
  rw [withoutComments_eq, withoutBlocks_newline, withoutEnds_newline, withoutComments_eq]

end StyleLinter.Build.Declarations
