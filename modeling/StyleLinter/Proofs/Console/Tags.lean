import Mathlib.Data.List.TakeWhile
import StyleLinter.Console.Markup
import StyleLinter.Proofs.Sequence

/-!
# Where the tags are

A tag is what it is read as: brackets around a text that begins like a tag and has no bracket
(`tag?_eq_some_iff`). Reading marked-up text goes on to the first tag, so the text is **clear text,
then backslashes, then the tag** and what follows it. Clear text has no tag in it, and the
backslashes are all that stand before the tag. This is the only way to divide a text so
(`nextTag?_eq_some_iff`), and there is no tag exactly in clear text (`nextTag?_eq_none_iff`).

What follows a tag, and how many backslashes stand before it, can thus be changed without moving the
tag.
-/

namespace StyleLinter.Console.Markup

variable {t front inside rest : Text} {n : Nat}

/-! ### One tag -/

/-- Can the text stand between the brackets of a tag? -/
structure IsInside (inside : Text) : Prop where
  begins : ∃ c more, inside = c :: more ∧ beginsTag c = true
  opening : '[' ∉ inside
  closing : ']' ∉ inside

/-- The text between brackets. -/
def bracketed (inside : Text) : Text := '[' :: (inside ++ [']'])

theorem bracketed_append (inside rest : Text) :
    bracketed inside ++ rest = '[' :: (inside ++ ']' :: rest) := by
  rw [bracketed, List.cons_append, List.append_assoc, List.singleton_append]

theorem not_beginsTag_opening : beginsTag '[' = false := by decide

theorem not_beginsTag_closing : beginsTag ']' = false := by decide

theorem tag?_cons (c : Char) (r : Text) :
    tag? ('[' :: c :: r) =
      if beginsTag c then
        match r.dropWhile fun x ↦ x != ']' && x != '[' with
        | ']' :: rest => some (c :: r.takeWhile fun x ↦ x != ']' && x != '[', rest)
        | _ => none
      else none := by
  rw [← drop_length_takeWhile]
  rfl

/-- **A tag is its inside between brackets.** -/
theorem tag?_eq_some_iff :
    tag? t = some (inside, rest) ↔ IsInside inside ∧ t = bracketed inside ++ rest := by
  constructor
  · intro h
    obtain ⟨c, r, rfl⟩ : ∃ c r, t = '[' :: c :: r := by
      unfold tag? at h
      split at h
      · exact ⟨_, _, rfl⟩
      · exact absurd h nofun
    rw [tag?_cons] at h
    obtain ⟨hbegins, h⟩ := Option.ite_none_right_eq_some.mp h
    have hchars {d : Char} (hd : d ∈ r.takeWhile fun x ↦ x != ']' && x != '[') :
        d ≠ ']' ∧ d ≠ '[' := by
      simpa only [Bool.and_eq_true, bne_iff_ne] using List.mem_takeWhile_imp hd
    split at h
    case h_2 => exact absurd h nofun
    case h_1 _ rest' hrest =>
      obtain ⟨rfl, rfl⟩ := Prod.mk.inj (Option.some.inj h)
      refine ⟨⟨⟨c, _, rfl, hbegins⟩, fun hmem ↦ ?_, fun hmem ↦ ?_⟩, ?_⟩
      · rcases List.mem_cons.mp hmem with rfl | hmem
        · exact Bool.noConfusion (not_beginsTag_opening.symm.trans hbegins)
        · exact (hchars hmem).2 rfl
      · rcases List.mem_cons.mp hmem with rfl | hmem
        · exact Bool.noConfusion (not_beginsTag_closing.symm.trans hbegins)
        · exact (hchars hmem).1 rfl
      · rw [bracketed_append, List.cons_append, ← hrest, List.takeWhile_append_dropWhile]
  · rintro ⟨⟨⟨c, more, rfl, hbegins⟩, hopening, hclosing⟩, rfl⟩
    have hchars : ∀ d ∈ more, (d != ']' && d != '[') = true := fun d hd ↦ by
      rw [Bool.and_eq_true, bne_iff_ne, bne_iff_ne]
      exact ⟨fun h ↦ hclosing (h ▸ List.mem_cons_of_mem _ hd),
        fun h ↦ hopening (h ▸ List.mem_cons_of_mem _ hd)⟩
    have hstop : ∀ d ∈ (']' :: rest).head?, (d != ']' && d != '[') = false :=
      fun d hd ↦ by cases hd; rfl
    obtain ⟨htake, hdrop⟩ := takeWhile_append_of_stop hchars hstop
    rw [bracketed_append, List.cons_append, tag?_cons, if_pos hbegins, htake, hdrop]
    rfl

/-- What follows a tag can be longer. -/
theorem tag?_append_of_some (h : tag? t = some (inside, rest)) (u : Text) :
    tag? (t ++ u) = some (inside, rest ++ u) := by
  obtain ⟨hinside, rfl⟩ := tag?_eq_some_iff.mp h
  exact tag?_eq_some_iff.mpr ⟨hinside, List.append_assoc ..⟩

/-! ### Clear text -/

/-- Is there no tag in the text? -/
def IsClear (t : Text) : Prop := ∀ inside, IsInside inside → ¬ bracketed inside <:+: t

theorem IsClear.of_infix {u : Text} (h : IsClear t) (hu : u <:+: t) : IsClear u :=
  fun _ hinside hmem ↦ h _ hinside (hmem.trans hu)

/-- Text without brackets is clear. -/
theorem isClear_of_not_mem (h : '[' ∉ t) : IsClear t :=
  fun _ _ hmem ↦ h (hmem.subset List.mem_cons_self)

/-- **A further character** makes a tag only if the text begins with one then. -/
theorem isClear_cons_iff {c : Char} : IsClear (c :: t) ↔ tag? (c :: t) = none ∧ IsClear t := by
  constructor
  · intro h
    refine ⟨Option.eq_none_iff_forall_not_mem.mpr fun ⟨inside, rest⟩ htag ↦ ?_,
      h.of_infix (List.suffix_cons _ _).isInfix⟩
    obtain ⟨hinside, heq⟩ := tag?_eq_some_iff.mp htag
    exact h inside hinside (heq ▸ (List.prefix_append _ _).isInfix)
  · rintro ⟨htag, h⟩ inside hinside hmem
    rcases List.infix_cons_iff.mp hmem with ⟨rest, heq⟩ | hmem
    · cases htag.symm.trans (tag?_eq_some_iff.mpr ⟨hinside, heq.symm⟩)
    · exact h inside hinside hmem

/-- Clear text begins no tag that goes on behind it, if another bracket opens there. -/
theorem tag?_append_eq_none (h : IsClear front) (hne : front ≠ []) {s : Text}
    (hopening : '[' ∉ s) (hclosing : ']' ∉ s) (u : Text) :
    tag? (front ++ s ++ '[' :: u) = none := by
  refine Option.eq_none_iff_forall_not_mem.mpr fun ⟨inside, rest⟩ htag ↦ ?_
  obtain ⟨hinside, heq⟩ := tag?_eq_some_iff.mp htag
  obtain ⟨c, front, rfl⟩ := List.exists_cons_of_ne_nil hne
  rw [bracketed_append, List.append_assoc, List.cons_append] at heq
  obtain ⟨rfl, hinner⟩ := List.cons_eq_cons.mp heq
  rcases List.append_eq_append_iff.mp hinner with ⟨z, rfl, hz⟩ | ⟨z, rfl, hz⟩
  · -- the inside would have to go on up to the other bracket
    rcases List.append_eq_append_iff.mp hz with ⟨w, rfl, hw⟩ | ⟨w, rfl, hw⟩
    · cases w with
      | nil => exact absurd hw (by simp)
      | cons d w =>
        obtain ⟨rfl, -⟩ := List.cons_eq_cons.mp hw
        exact hinside.opening (by simp)
    · cases w with
      | nil => exact absurd hw (by simp)
      | cons d w =>
        obtain ⟨rfl, -⟩ := List.cons_eq_cons.mp hw
        exact hclosing (by simp)
  · cases z with
    | nil =>
      cases s with
      | nil => exact absurd hz (by simp)
      | cons d s =>
        obtain ⟨rfl, -⟩ := List.cons_eq_cons.mp hz
        exact hclosing List.mem_cons_self
    | cons d z =>
      obtain ⟨rfl, -⟩ := List.cons_eq_cons.mp hz
      refine h inside hinside ⟨[], z, ?_⟩
      rw [List.nil_append, bracketed_append]

/-- Clear text that ends with no backslash: what can stand before a tag and its backslashes. -/
structure IsFront (front : Text) : Prop where
  clear : IsClear front
  last : front.getLast? ≠ some '\\'

/-! ### The next tag -/

theorem nextTag?_cons (c : Char) (r : Text) :
    nextTag? (c :: r) =
      match tag? ((c :: r).dropWhile (· == '\\')) with
      | some (inside, rest) =>
        some ([], ((c :: r).takeWhile (· == '\\')).length, inside, rest)
      | none => (nextTag? r).map fun (front, found) ↦ (c :: front, found) := by
  rw [← drop_length_takeWhile]
  rfl

/-- Backslashes end where something else begins. -/
theorem slashes_append (n : Nat) (inside rest : Text) :
    (List.replicate n '\\' ++ bracketed inside ++ rest).takeWhile (· == '\\') =
        List.replicate n '\\' ∧
      (List.replicate n '\\' ++ bracketed inside ++ rest).dropWhile (· == '\\') =
        bracketed inside ++ rest := by
  rw [List.append_assoc]
  refine takeWhile_append_of_stop (fun d hd ↦ ?_) fun d hd ↦ ?_
  · exact beq_iff_eq.mpr (List.eq_of_mem_replicate hd)
  · cases hd
    rfl

/-- A tag behind nothing but backslashes is the next one. -/
theorem nextTag?_slashes (n : Nat) (h : IsInside inside) (rest : Text) :
    nextTag? (List.replicate n '\\' ++ bracketed inside ++ rest) = some ([], n, inside, rest) := by
  obtain ⟨htake, hdrop⟩ := slashes_append n inside rest
  have htag : tag? (bracketed inside ++ rest) = some (inside, rest) :=
    tag?_eq_some_iff.mpr ⟨h, rfl⟩
  cases ht : List.replicate n '\\' ++ bracketed inside ++ rest with
  | nil => exact absurd ht (by simp [bracketed])
  | cons c r =>
    rw [ht] at htake hdrop
    rw [nextTag?_cons, hdrop, htake, htag, List.length_replicate]

/-- **There is no next tag** exactly in clear text. -/
theorem nextTag?_eq_none_iff : nextTag? t = none ↔ IsClear t := by
  induction t with
  | nil => exact ⟨fun _ ↦ isClear_of_not_mem List.not_mem_nil, fun _ ↦ rfl⟩
  | cons c r ih =>
    rw [nextTag?_cons]
    constructor
    · intro h
      split at h
      case h_1 => exact absurd h nofun
      case h_2 htag =>
      refine isClear_cons_iff.mpr ⟨?_, ih.mp (Option.map_eq_none_iff.mp h)⟩
      by_cases hc : c = '\\'
      · subst hc
        rfl
      · rwa [List.dropWhile_cons_of_neg (by simpa using hc)] at htag
    · intro h
      have hdrop : tag? ((c :: r).dropWhile (· == '\\')) = none := by
        have hclear := h.of_infix (List.dropWhile_suffix (· == '\\')).isInfix
        cases hr : (c :: r).dropWhile (· == '\\') with
        | nil => rfl
        | cons d s => exact (isClear_cons_iff.mp (hr ▸ hclear)).1
      rw [hdrop]
      exact Option.map_eq_none_iff.mpr (ih.mpr (isClear_cons_iff.mp h).2)

theorem IsFront.of_cons {c : Char} (h : IsFront (c :: front)) : IsFront front where
  clear := (isClear_cons_iff.mp h.clear).2
  last hlast := h.last (by
    cases front with
    | nil => exact absurd hlast nofun
    | cons d front => rwa [List.getLast?_cons_cons])

/-- What stands before a tag begins none itself, whatever backslashes it begins with. -/
theorem IsFront.tag?_eq_none {c : Char} (h : IsFront (c :: front)) (n : Nat) (inside rest : Text) :
    tag? ((c :: (front ++ List.replicate n '\\' ++ bracketed inside ++ rest)).dropWhile
      (· == '\\')) = none := by
  -- backslashes at the beginning end before the tag
  have hne : (c :: front).dropWhile (· == '\\') ≠ [] := fun hnil ↦ h.last (by
    have hall :=
      List.dropWhile_eq_nil_iff.mp hnil _ (List.getLast_mem (List.cons_ne_nil c front))
    rw [List.getLast?_eq_some_getLast (List.cons_ne_nil c front), beq_iff_eq.mp hall])
  have hclear := h.clear.of_infix (List.dropWhile_suffix (· == '\\')).isInfix
  have hopening : '[' ∉ List.replicate n '\\' := by simp [List.mem_replicate]
  have hclosing : ']' ∉ List.replicate n '\\' := by simp [List.mem_replicate]
  have hnone := tag?_append_eq_none hclear hne hopening hclosing (inside ++ ']' :: rest)
  rwa [List.append_assoc, List.append_assoc, ← List.cons_append, List.dropWhile_append,
    if_neg (by rwa [List.isEmpty_iff]), bracketed_append, ← List.append_assoc]

/-- A character with which no tag begins can be put before what stands before a tag. -/
theorem IsFront.cons_of_tag? {c : Char} (h : IsFront front) (hinside : IsInside inside)
    (htag : tag? ((c :: (front ++ List.replicate n '\\' ++ bracketed inside ++ rest)).dropWhile
      (· == '\\')) = none) : IsFront (c :: front) where
  clear := by
    refine isClear_cons_iff.mpr
      ⟨Option.eq_none_iff_forall_not_mem.mpr fun ⟨inside', rest'⟩ hfront ↦ ?_, h.clear⟩
    obtain rfl : c = '[' := (List.cons_eq_cons.mp (tag?_eq_some_iff.mp hfront).2).1
    have hmore := tag?_append_of_some hfront (List.replicate n '\\' ++ bracketed inside ++ rest)
    rw [List.cons_append, ← List.append_assoc, ← List.append_assoc] at hmore
    rw [List.dropWhile_cons_of_neg (by decide)] at htag
    exact absurd (htag.symm.trans hmore) nofun
  last := by
    cases front with
    | nil =>
      intro hlast
      obtain rfl : c = '\\' := Option.some.inj hlast
      have hdrop := (slashes_append (n + 1) inside rest).2
      rw [List.nil_append] at htag
      rw [List.replicate_succ, List.cons_append, List.cons_append] at hdrop
      rw [hdrop, tag?_eq_some_iff.mpr ⟨hinside, rfl⟩] at htag
      exact absurd htag nofun
    | cons d front =>
      rw [List.getLast?_cons_cons]
      exact h.last

/-- **The next tag divides a text**: clear text that ends with no backslash, backslashes, the tag
and what follows it. -/
theorem of_nextTag? (h : nextTag? t = some (front, n, inside, rest)) :
    IsFront front ∧ IsInside inside ∧
      t = front ++ List.replicate n '\\' ++ bracketed inside ++ rest := by
  induction t generalizing front with
  | nil => exact absurd h nofun
  | cons c r ih =>
    rw [nextTag?_cons] at h
    split at h
    case h_1 inside' rest' htag =>
      cases h
      obtain ⟨hinside, heq⟩ := tag?_eq_some_iff.mp htag
      refine ⟨⟨isClear_of_not_mem List.not_mem_nil, nofun⟩, hinside, ?_⟩
      have hslashes : (c :: r).takeWhile (· == '\\') =
          List.replicate ((c :: r).takeWhile (· == '\\')).length '\\' :=
        List.eq_replicate_iff.mpr ⟨rfl, fun d hd ↦ by simpa using List.mem_takeWhile_imp hd⟩
      rw [List.nil_append, ← hslashes, List.append_assoc, ← heq, List.takeWhile_append_dropWhile]
    case h_2 htag =>
      obtain ⟨⟨front', found⟩, hnext, hfound⟩ := Option.map_eq_some_iff.mp h
      cases hfound
      obtain ⟨hfront, hinside, rfl⟩ := ih hnext
      exact ⟨hfront.cons_of_tag? hinside htag, hinside, rfl⟩

/-- **A text that is so divided** has the tag as its next one. -/
theorem nextTag?_append (hfront : IsFront front) (n : Nat) (hinside : IsInside inside)
    (rest : Text) :
    nextTag? (front ++ List.replicate n '\\' ++ bracketed inside ++ rest) =
      some (front, n, inside, rest) := by
  induction front with
  | nil => exact nextTag?_slashes n hinside rest
  | cons c front ih =>
    rw [List.cons_append, List.cons_append, List.cons_append, nextTag?_cons, hfront.tag?_eq_none,
      ih hfront.of_cons]
    rfl

theorem nextTag?_eq_some_iff :
    nextTag? t = some (front, n, inside, rest) ↔
      IsFront front ∧ IsInside inside ∧
        t = front ++ List.replicate n '\\' ++ bracketed inside ++ rest :=
  ⟨of_nextTag?, fun ⟨hfront, hinside, ht⟩ ↦ ht ▸ nextTag?_append hfront n hinside rest⟩

/-- **Tags are taken one after the other**: a text is clear, or it is divided by its next tag. -/
@[elab_as_elim]
theorem tags_induction {motive : Text → Prop} (clear : ∀ t, IsClear t → motive t)
    (tag : ∀ front n inside rest, IsFront front → IsInside inside → motive rest →
      motive (front ++ List.replicate n '\\' ++ bracketed inside ++ rest)) (t : Text) :
    motive t := by
  cases hnext : nextTag? t with
  | none => exact clear t (nextTag?_eq_none_iff.mp hnext)
  | some found =>
    obtain ⟨front, n, inside, rest⟩ := found
    obtain ⟨hfront, hinside, ht⟩ := of_nextTag? hnext
    have := length_of_nextTag? hnext
    rw [ht]
    exact tag front n inside rest hfront hinside (tags_induction clear tag rest)
termination_by t.length

/-! ### Pieces -/

theorem pieces_of_isClear (h : IsClear t) : pieces t = shownUnlessEmpty t := by
  rw [pieces]
  split
  · rfl
  · next hnext => cases (nextTag?_eq_none_iff.mpr h).symm.trans hnext

/-- **The pieces of a text that a tag divides.** Of the backslashes before the tag one half is
shown, and if one is over, the tag is shown as well. -/
theorem pieces_append_tag (hfront : IsFront front) (n : Nat) (hinside : IsInside inside)
    (rest : Text) :
    pieces (front ++ List.replicate n '\\' ++ bracketed inside ++ rest) =
      shownUnlessEmpty front ++ shownUnlessEmpty (List.replicate (n / 2) '\\')
        ++ [if n % 2 = 1 then .shown (bracketed inside) else .tag inside] ++ pieces rest := by
  have hnext := nextTag?_append hfront n hinside rest
  rw [pieces]
  split
  · next hnone => cases hnext.symm.trans hnone
  · next hsome =>
    cases hnext.symm.trans hsome
    rfl

/-- A tag is a piece. -/
theorem pieces_tag_cons (h : IsInside inside) (rest : Text) :
    pieces (bracketed inside ++ rest) = .tag inside :: pieces rest :=
  pieces_append_tag ⟨isClear_of_not_mem List.not_mem_nil, nofun⟩ 0 h rest

end StyleLinter.Console.Markup
