import StyleLinter.Proofs.Text.Pieces

/-!
# Searching

A search goes on to the first place where the piece begins. **A text in which it begins nowhere is
passed over** (`cutAt?_append`), where the piece could also begin at the end of the text and go on
behind it. A pair of characters does so only if the text ends with the first one and the second one
follows (`cutAt?_pair_append`). What was found in a text is found in any longer one
(`cutAt?_append_of_some`).

`beneath` sets texts on lines of their own below what comes before. With a line break in front a
file is its lines beneath nothing (`newline_cons_joinWith`), so what is said of a text with lines
beneath it holds of the last line of a file and of the others alike.
-/

namespace StyleLinter.Text

variable {piece u t z front rest : Text} {a b sep : Char}

/-! ### The first place -/

theorem after?_eq_none_iff : after? piece t = none ↔ ¬ piece <+: t := by
  rw [Option.eq_none_iff_forall_ne_some]
  constructor
  · rintro h ⟨r, hr⟩
    exact h r (after?_eq_some_iff.mpr hr.symm)
  · intro h r hr
    exact h ⟨r, (after?_eq_some_iff.mp hr).symm⟩

/-- A piece without separators begins before the first one. -/
theorem after?_append_sep (hpiece : sep ∉ piece) (s : Text) :
    after? piece (s ++ sep :: z) = (after? piece s).map (· ++ sep :: z) := by
  induction piece generalizing s with
  | nil => rfl
  | cons p ps ih =>
    rw [List.mem_cons, not_or] at hpiece
    cases s with
    | nil => exact if_neg (Ne.symm hpiece.1)
    | cons c s =>
      rw [List.cons_append, after?, after?]
      split
      · exact ih hpiece.2 s
      · rfl

/-- **A text in which the piece does not begin is passed over.** -/
theorem cutAt?_append (h : ∀ s, s <:+ u → s ≠ [] → ¬ piece <+: s ++ t) :
    cutAt? piece (u ++ t) = (cutAt? piece t).map fun x ↦ (u ++ x.1, x.2) := by
  induction u with
  | nil => exact Option.map_id'.symm
  | cons c u ih =>
    have hafter : after? piece (c :: (u ++ t)) = none :=
      after?_eq_none_iff.mpr (h (c :: u) List.suffix_rfl (List.cons_ne_nil _ _))
    have hrest := ih fun s hs ↦ h s (hs.trans (List.suffix_cons c u))
    rw [List.cons_append, cutAt?, hafter, hrest]
    cases cutAt? piece t <;> rfl

/-- What begins with another character begins nowhere where this one is missing. -/
theorem cutAt?_append_of_not_mem (ha : a ∉ u) (t : Text) :
    cutAt? (a :: piece) (u ++ t) = (cutAt? (a :: piece) t).map fun x ↦ (u ++ x.1, x.2) := by
  refine cutAt?_append fun s hs hne hprefix ↦ ?_
  obtain ⟨c, s, rfl⟩ := List.exists_cons_of_ne_nil hne
  obtain ⟨rfl, -⟩ := List.cons_prefix_cons.mp hprefix
  exact ha (hs.subset List.mem_cons_self)

/-- **A pair begins in a text** only inside it or where it goes on behind it. -/
theorem cutAt?_pair_append (hpair : ¬ [a, b] <:+: u)
    (hend : u.getLast? = some a → t.head? ≠ some b) :
    cutAt? [a, b] (u ++ t) = (cutAt? [a, b] t).map fun x ↦ (u ++ x.1, x.2) := by
  refine cutAt?_append fun s hs hne hprefix ↦ ?_
  obtain ⟨c, s, rfl⟩ := List.exists_cons_of_ne_nil hne
  obtain ⟨rfl, hrest⟩ := List.cons_prefix_cons.mp hprefix
  cases s with
  | nil =>
    obtain ⟨r, rfl⟩ := hs
    obtain ⟨v, rfl⟩ := hrest
    exact hend List.getLast?_concat rfl
  | cons d s =>
    obtain ⟨rfl, -⟩ := List.cons_prefix_cons.mp hrest
    exact hpair ((List.prefix_append _ s).isInfix.trans hs.isInfix)

/-- **What was found in a text** is found in it also when more follows. -/
theorem cutAt?_append_of_some (h : cutAt? (a :: piece) u = some (front, rest)) (t : Text) :
    cutAt? (a :: piece) (u ++ t) = some (front, rest ++ t) := by
  induction u generalizing front with
  | nil => exact absurd h nofun
  | cons c u ih =>
    rw [cutAt?] at h
    rw [List.cons_append, cutAt?]
    split at h
    · next r hr =>
      obtain ⟨rfl, rfl⟩ := Prod.mk.inj (Option.some.inj h)
      have hafter : after? (a :: piece) (c :: (u ++ t)) = some (r ++ t) := by
        rw [after?_eq_some_iff, ← List.append_assoc, ← after?_eq_some_iff.mp hr, List.cons_append]
      rw [hafter]
    · next hnone =>
      obtain ⟨⟨front', rest'⟩, hcut, he⟩ := Option.map_eq_some_iff.mp h
      obtain ⟨rfl, rfl⟩ := Prod.mk.inj he
      -- The piece is no longer than what it was found in, so it would begin here already without `t`.
      have hafter : after? (a :: piece) (c :: (u ++ t)) = none := by
        refine after?_eq_none_iff.mpr fun hprefix ↦ after?_eq_none_iff.mp hnone ?_
        refine List.prefix_of_prefix_length_le hprefix (List.prefix_append (c :: u) t) ?_
        have hlength := congrArg List.length (eq_of_cutAt? hcut)
        simp only [List.length_append, List.length_cons] at hlength ⊢
        omega
      rw [hafter, ih hcut]
      rfl

theorem cutAt?_eq_none_iff : cutAt? (a :: piece) t = none ↔ ¬ (a :: piece) <:+: t := by
  induction t with
  | nil => exact iff_of_true rfl (by simp)
  | cons c t ih =>
    rw [cutAt?, List.infix_cons_iff, not_or, ← ih, ← after?_eq_none_iff]
    cases after? (a :: piece) (c :: t) with
    | none => exact Option.map_eq_none_iff.trans (and_iff_right rfl).symm
    | some r => exact iff_of_false (Option.some_ne_none _) fun h ↦ Option.some_ne_none r h.1

/-- A piece is found where it begins. -/
theorem cutAt?_piece (a : Char) (piece t : Text) :
    cutAt? (a :: piece) (a :: (piece ++ t)) = some ([], t) := by
  have hafter : after? (a :: piece) (a :: (piece ++ t)) = some t := after?_eq_some_iff.mpr rfl
  rw [cutAt?, hafter]

/-- A pair that is put behind a text in which it does not begin is found there. -/
theorem cutAt?_pair (hpair : ¬ [a, b] <:+: u) (hend : u.getLast? = some a → a ≠ b) (t : Text) :
    cutAt? [a, b] (u ++ a :: b :: t) = some (u, t) := by
  rw [cutAt?_pair_append hpair (t := a :: b :: t) fun h he ↦ hend h (Option.some.inj he),
    show cutAt? [a, b] (a :: b :: t) = some ([], t) from cutAt?_piece a [b] t, Option.map_some,
    List.append_nil]

theorem not_infix_of_not_mem (ha : a ∉ u) : ¬ (a :: piece) <:+: u := fun h ↦
  ha (h.subset List.mem_cons_self)

/-- Two texts have the pair only if one has it or it stands between them. -/
theorem not_pair_infix_append (hu : ¬ [a, b] <:+: u) (ht : ¬ [a, b] <:+: t)
    (hend : u.getLast? = some a → t.head? ≠ some b) : ¬ [a, b] <:+: u ++ t := by
  refine cutAt?_eq_none_iff.mp ?_
  rw [cutAt?_pair_append hu hend, cutAt?_eq_none_iff.mpr ht]
  rfl

/-! ### Lines beneath -/

/-- Does the text end here, or at least the line? -/
inductive EndsLine : Text → Prop
  | /-- The text ends. -/
    nil : EndsLine []
  | /-- The line ends. -/
    cons (t : Text) : EndsLine ('\n' :: t)

/-- The texts, each on a line of its own below what comes before. -/
def beneath (ts : List Text) : Text := ts.flatMap ('\n' :: ·)

@[simp] theorem beneath_nil : beneath [] = [] := rfl

theorem beneath_cons (t : Text) (ts : List Text) : beneath (t :: ts) = '\n' :: (t ++ beneath ts) :=
  rfl

theorem newline_cons_joinWith {ts : List Text} (h : ts ≠ []) :
    '\n' :: joinWith "\n" ts = beneath ts := by
  induction ts with
  | nil => exact absurd rfl h
  | cons t ts ih =>
    rw [beneath_cons]
    by_cases hts : ts = []
    · subst hts
      exact congrArg ('\n' :: ·) (List.append_nil t).symm
    · rw [joinWith_cons hts, ← ih hts, List.append_assoc]
      rfl

theorem beneath_append (ts us : List Text) : beneath (ts ++ us) = beneath ts ++ beneath us :=
  List.flatMap_append

theorem endsLine_beneath (ts : List Text) : EndsLine (beneath ts) := by
  cases ts with
  | nil => exact .nil
  | cons t ts => exact .cons _

theorem EndsLine.beneath_append (h : EndsLine t) (ts : List Text) : EndsLine (beneath ts ++ t) := by
  cases ts with
  | nil => exact h
  | cons u us => exact .cons _

theorem EndsLine.head?_ne {c : Char} (h : EndsLine t) (hc : c ≠ '\n') : t.head? ≠ some c := by
  cases h with
  | nil => nofun
  | cons t => exact fun h ↦ hc (Option.some.inj h).symm

end StyleLinter.Text
