import Mathlib.Data.List.Infix
import Mathlib.Data.List.TakeWhile
import StyleLinter.Console.Emoji
import StyleLinter.Proofs.Sequence
import StyleLinter.Proofs.Text.Numeral
import StyleLinter.Proofs.Text.Search

/-!
# What becomes of codes

A code stands between two colons and has no colon and no blank in it (`code?_eq_some_iff`). No
pictograph has a colon. So **a text in which a code is replaced has fewer colons afterwards**, and a
text that keeps its colons is kept altogether (`replace_eq_or_count_lt`). A text is replaced piece
by piece, up to its first colon (`replace_append`) and after its last one (`replace_concat`).

Of all numbers, **exactly 100 and 1234 name pictographs** (`isSome_find?_ofNat_iff`), so the code of
any other number is kept (`meaning_ofNat`).
-/

namespace StyleLinter.Console.Emoji

variable {t u code rest name glyph : Text} {c : Char}

/-! ### Codes -/

/-- Can the text stand between two colons? -/
def IsCode (code : Text) : Prop := ∀ c ∈ code, c ≠ ':' ∧ Text.isBlank c = false

theorem code?_eq (t : Text) :
    code? t =
      match t.dropWhile fun c ↦ c != ':' && !Text.isBlank c with
      | ':' :: rest => some (t.takeWhile fun c ↦ c != ':' && !Text.isBlank c, rest)
      | _ => none := by
  rw [← drop_length_takeWhile]
  rfl

/-- **A code is what stands before a colon**, if there is no blank before it. -/
theorem code?_eq_some_iff :
    code? t = some (code, rest) ↔ IsCode code ∧ t = code ++ ':' :: rest := by
  have hchar {c : Char} :
      (c != ':' && !Text.isBlank c) = true ↔ c ≠ ':' ∧ Text.isBlank c = false := by
    rw [Bool.and_eq_true, bne_iff_ne, Bool.not_eq_true']
  rw [code?_eq]
  constructor
  · intro h
    split at h
    case h_1 rest' hrest =>
      obtain ⟨rfl, rfl⟩ := Prod.mk.inj (Option.some.inj h)
      refine ⟨fun c hc ↦ ?_, by rw [← hrest, List.takeWhile_append_dropWhile]⟩
      have hinside := List.mem_takeWhile_imp hc
      exact hchar.mp hinside
    case h_2 => exact absurd h nofun
  · rintro ⟨hcode, rfl⟩
    have hstop : ∀ c ∈ (':' :: rest).head?, (c != ':' && !Text.isBlank c) = false :=
      fun c hc ↦ by cases hc; rfl
    obtain ⟨htake, hdrop⟩ := takeWhile_append_of_stop (fun c hc ↦ hchar.mpr (hcode c hc)) hstop
    rw [htake, hdrop]
    rfl

theorem code?_append (h : IsCode code) (rest : Text) :
    code? (code ++ ':' :: rest) = some (code, rest) :=
  code?_eq_some_iff.mpr ⟨h, rfl⟩

/-- A character that is no colon and comes at the end makes no code. -/
theorem code?_concat (hc : c ≠ ':') (t : Text) :
    code? (t ++ [c]) = (code? t).map fun (code, rest) ↦ (code, rest ++ [c]) := by
  cases h : code? t with
  | some found =>
    obtain ⟨hcode, rfl⟩ := code?_eq_some_iff.mp h
    rw [List.append_assoc]
    exact code?_append hcode _
  | none =>
    refine Option.eq_none_iff_forall_ne_some.mpr fun ⟨code, rest⟩ hsome ↦ ?_
    obtain ⟨hcode, heq⟩ := code?_eq_some_iff.mp hsome
    rcases List.eq_nil_or_concat rest with rfl | ⟨rest, d, rfl⟩
    · exact hc (List.append_singleton_inj.mp heq).2
    · rw [List.concat_eq_append, ← List.cons_append, ← List.append_assoc] at heq
      have hshort := code?_eq_some_iff.mpr ⟨hcode, (List.append_singleton_inj.mp heq).1⟩
      exact absurd (h.symm.trans hshort) nofun

/-! ### Pictographs -/

/-- **No pictograph has a colon.** -/
theorem not_mem_of_find? (h : find? name = some glyph) : ':' ∉ glyph := by
  fun_cases find? name with
  | case1 => exact absurd h nofun
  | case2 initial others =>
    obtain ⟨found, -, rfl⟩ := Option.map_eq_some_iff.mp h
    exact fun hmem ↦ absurd (List.mem_takeWhile_imp hmem) (by decide)

theorem not_mem_selector (code : Text) : ':' ∉ (nameAndSelector code).2 := by
  unfold nameAndSelector
  split
  · show ':' ∉ ['\ufe0f']
    decide
  · split
    · show ':' ∉ ['\ufe0e']
      decide
    · exact List.not_mem_nil

theorem meaning_eq (code : Text) :
    meaning code = (find? ((nameAndSelector code).1.map lower)).elim (':' :: (code ++ [':']))
      (· ++ (nameAndSelector code).2) := by
  rw [meaning]
  cases nameAndSelector code with
  | mk name selector =>
    dsimp only
    cases find? (name.map lower) with
    | none => rfl
    | some glyph => rfl

/-- What a code stands for has no colon, unless it is the code itself. -/
theorem meaning_eq_or_not_mem (code : Text) :
    meaning code = ':' :: (code ++ [':']) ∨ ':' ∉ meaning code := by
  rw [meaning_eq]
  cases hglyph : find? ((nameAndSelector code).1.map lower) with
  | none => exact .inl rfl
  | some glyph =>
    refine .inr fun hmem ↦ ?_
    rcases List.mem_append.mp hmem with hmem | hmem
    · exact not_mem_of_find? hglyph hmem
    · exact not_mem_selector code hmem

/-! ### Texts with codes -/

theorem replace_nil : replace [] = [] := by rw [replace]

theorem replace_cons (hc : c ≠ ':') (t : Text) : replace (c :: t) = c :: replace t := by
  rw [replace]
  exact fun h ↦ hc h

theorem replace_of_code (h : code? t = some (code, rest)) :
    replace (':' :: t) = meaning code ++ replace rest := by
  rw [replace]
  split
  · next code' rest' hcode =>
    obtain ⟨rfl, rfl⟩ := Prod.mk.inj (Option.some.inj (h.symm.trans hcode))
    rfl
  · next hnone => exact absurd (h.symm.trans hnone) (Option.some_ne_none _)

theorem replace_of_no_code (h : code? t = none) : replace (':' :: t) = ':' :: replace t := by
  rw [replace]
  split
  · next hcode => exact absurd (h.symm.trans hcode) (Option.some_ne_none _).symm
  · rfl

/-- **Codes are replaced one after the other.** -/
@[elab_as_elim]
theorem replace_induction {motive : Text → Prop} (nil : motive [])
    (code : ∀ code rest, IsCode code → motive rest → motive (':' :: (code ++ ':' :: rest)))
    (colon : ∀ t, code? t = none → motive t → motive (':' :: t))
    (cons : ∀ c t, c ≠ ':' → motive t → motive (c :: t)) (t : Text) : motive t := by
  fun_induction replace t with
  | case1 => exact nil
  | case2 t name rest h ih =>
    obtain ⟨hcode, rfl⟩ := code?_eq_some_iff.mp h
    exact code name rest hcode ih
  | case3 t h ih => exact colon t h ih
  | case4 c t hc ih => exact cons c t (fun h ↦ hc h) ih

/-- **A text is kept, or it loses colons.** -/
theorem replace_eq_or_count_lt (t : Text) :
    replace t = t ∨ (replace t).count ':' < t.count ':' := by
  induction t using replace_induction with
  | nil => exact .inl replace_nil
  | code code rest hcode ih =>
    rw [replace_of_code (code?_append hcode rest)]
    have hrest : (replace rest).count ':' ≤ rest.count ':' :=
      ih.elim (fun h ↦ (congrArg (List.count ':') h).le) Nat.le_of_lt
    rcases meaning_eq_or_not_mem code with hkept | hlost
    · rw [hkept]
      refine ih.imp (fun h ↦ ?_) fun h ↦ ?_
      · rw [h, List.cons_append, List.append_assoc, List.singleton_append]
      · simp only [List.count_append, List.count_cons, List.cons_append, List.count_nil]
        omega
    · refine .inr ?_
      rw [List.count_append, List.count_eq_zero_of_not_mem hlost, Nat.zero_add,
        List.count_cons_self, List.count_append, List.count_cons_self]
      omega
  | colon t h ih =>
    rw [replace_of_no_code h, List.count_cons_self, List.count_cons_self]
    exact ih.imp (congrArg (':' :: ·)) Nat.succ_lt_succ
  | cons c t hc ih =>
    rw [replace_cons hc, List.count_cons_of_ne hc, List.count_cons_of_ne hc]
    exact ih.imp_left (congrArg (c :: ·))

/-- What has no colon is kept, whatever comes after it. -/
theorem replace_append (hu : ':' ∉ u) (t : Text) : replace (u ++ t) = u ++ replace t := by
  induction u with
  | nil => rfl
  | cons c u ih =>
    rw [List.cons_append, replace_cons (List.ne_of_not_mem_cons hu).symm,
      ih (List.not_mem_of_not_mem_cons hu)]
    rfl

/-- A character that is no colon and comes at the end is kept. -/
theorem replace_concat (hc : c ≠ ':') (t : Text) : replace (t ++ [c]) = replace t ++ [c] := by
  induction t using replace_induction with
  | nil =>
    rw [List.nil_append, replace_cons hc, replace_nil]
    rfl
  | code code rest hcode ih =>
    rw [List.cons_append, List.append_assoc, List.cons_append,
      replace_of_code (code?_append hcode _), replace_of_code (code?_append hcode _), ih,
      List.append_assoc]
  | colon t h ih =>
    have hnone : code? (t ++ [c]) = none := by rw [code?_concat hc, h, Option.map_none]
    rw [List.cons_append, replace_of_no_code hnone, replace_of_no_code h, ih]
    rfl
  | cons d t hd ih =>
    rw [List.cons_append, replace_cons hd, replace_cons hd, ih]
    rfl

/-! ### Numbers -/

/-- A name has a pictograph if it stands in its table between a line feed and a space. -/
theorem isSome_find?_iff (c : Char) (more : Text) :
    (find? (c :: more)).isSome = true ↔ '\n' :: (c :: more ++ [' ']) <:+: named c := by
  rw [find?, Option.isSome_map, Option.isSome_iff_ne_none]
  exact (not_congr Text.cutAt?_eq_none_iff).trans Decidable.not_not

/-- Digits are rare initials. -/
theorem named_of_toNat (h : c.toNat ≤ 57) : named c = rareInitials := by
  unfold named
  split
  case h_25 => rfl
  all_goals exact absurd h (by decide)

/-- The digits between a line feed and a space that the text begins with. -/
def number? : Text → Option Text
  | '\n' :: r =>
    match r.dropWhile Char.isDigit with
    | ' ' :: _ => some (r.takeWhile Char.isDigit)
    | _ => none
  | _ => none

theorem number?_eq_some_iff :
    number? t = some name ↔
      (∀ c ∈ name, c.isDigit = true) ∧ '\n' :: (name ++ [' ']) <+: t := by
  constructor
  · intro h
    unfold number? at h
    split at h
    case h_1 r =>
      split at h
      case h_1 rest hrest =>
        cases h
        refine ⟨fun c hc ↦ List.mem_takeWhile_imp hc, rest, ?_⟩
        rw [List.cons_append, List.append_assoc, List.singleton_append, ← hrest,
          List.takeWhile_append_dropWhile]
      case h_2 => exact absurd h nofun
    case h_2 => exact absurd h nofun
  · rintro ⟨hdigits, rest, rfl⟩
    have hstop : ∀ c ∈ (' ' :: rest).head?, c.isDigit = false := fun c hc ↦ by cases hc; rfl
    obtain ⟨htake, hdrop⟩ := takeWhile_append_of_stop hdigits hstop
    rw [List.cons_append, List.append_assoc, List.singleton_append, number?, hdrop, htake]
    rfl

/-- The numbers among the rare names. -/
theorem numbers_rareInitials : rareInitials.tails.filterMap number? = ["100".toList, "1234"] := by
  decide +kernel

/-- **Of all numbers, two name pictographs.** -/
theorem isSome_find?_ofNat_iff (n : Nat) :
    (find? (Text.ofNat n)).isSome = true ↔ n = 100 ∨ n = 1234 := by
  have hinj {m : Nat} : Text.ofNat n = Text.ofNat m ↔ n = m := by
    refine ⟨fun h ↦ ?_, congrArg Text.ofNat⟩
    rw [← Text.valueOf_ofNat n, h, Text.valueOf_ofNat]
  obtain ⟨c, more, hname⟩ := List.exists_cons_of_ne_nil (Text.ofNat_ne_nil n)
  have hinitial : c.toNat ≤ 57 := (Text.toNat_of_mem_ofNat (hname ▸ List.mem_cons_self)).2
  rw [hname, isSome_find?_iff, named_of_toNat hinitial, ← hname]
  calc '\n' :: (Text.ofNat n ++ [' ']) <:+: rareInitials
      ↔ ∃ t ∈ rareInitials.tails, number? t = some (Text.ofNat n) := by
        have hdigits : ∀ c ∈ Text.ofNat n, c.isDigit = true :=
          fun c hc ↦ Nat.isDigit_of_mem_toDigits (by decide) (by decide) hc
        simp only [number?_eq_some_iff, List.infix_iff_prefix_suffix, List.mem_tails]
        exact exists_congr fun t ↦ ⟨fun h ↦ ⟨h.2, hdigits, h.1⟩, fun h ↦ ⟨h.2.2, h.1⟩⟩
    _ ↔ Text.ofNat n ∈ rareInitials.tails.filterMap number? := List.mem_filterMap.symm
    _ ↔ Text.ofNat n = Text.ofNat 100 ∨ Text.ofNat n = Text.ofNat 1234 := by
        rw [numbers_rareInitials]
        exact List.mem_pair
    _ ↔ n = 100 ∨ n = 1234 := or_congr hinj hinj

/-- A name that asks for no presentation is the whole code. -/
theorem nameAndSelector_of_not_mem (h : '-' ∉ code) : nameAndSelector code = (code, []) := by
  have hends {ending : Text} (hending : '-' ∈ ending) : Text.endsWith code ending = false := by
    rw [Bool.eq_false_iff, Text.endsWith, ne_eq, List.isSuffixOf_iff_suffix]
    exact fun hsuffix ↦ h (hsuffix.subset hending)
  rw [nameAndSelector, if_neg (by rw [hends (by decide)]; decide),
    if_neg (by rw [hends (by decide)]; decide)]

theorem lower_of_toNat (h : c.toNat ≤ 57) : lower c = c := by
  have hupper : c.isUpper = false :=
    decide_eq_false fun ⟨hle, _⟩ ↦ absurd (show 65 ≤ c.toNat from hle) (by omega)
  rw [lower, hupper, if_neg Bool.false_ne_true, if_neg (by omega), if_neg (by omega),
    if_neg (by omega)]

/-- **The code of a number is kept**, unless it is one of the two. -/
theorem meaning_ofNat {n : Nat} (h : n ≠ 100 ∧ n ≠ 1234) :
    meaning (Text.ofNat n) = ':' :: (Text.ofNat n ++ [':']) := by
  have hnone : find? (Text.ofNat n) = none := by
    rw [← Option.not_isSome_iff_eq_none, isSome_find?_ofNat_iff]
    exact not_or.mpr h
  have hlower : (Text.ofNat n).map lower = Text.ofNat n :=
    (List.map_congr_left fun c hc ↦ lower_of_toNat (Text.toNat_of_mem_ofNat hc).2).trans
      (List.map_id' _)
  have hdash : '-' ∉ Text.ofNat n := fun hmem ↦
    absurd (Text.toNat_of_mem_ofNat hmem).1 (by decide)
  rw [meaning_eq, nameAndSelector_of_not_mem hdash, hlower, hnone]
  rfl

end StyleLinter.Console.Emoji
