import Mathlib.Algebra.Group.Nat.Defs
import StyleLinter.Proofs.Text.Lines
import StyleLinter.Text.Numeral

/-!
# Numbers are read back from their digits

`valueOf_ofNat` and `length_ofNat_le_iff`: the digits of a number denote the number, and how many
there are says how large it can be. A row of digits of any script denotes a number with no more
digits (`length_ofNat_valueOf_le`), since leading zeros only add to its length.
-/

namespace StyleLinter.Text

theorem digit?_of_isDigit {c : Char} (h : c.isDigit = true) :
    digit? c = some (c.toNat - '0'.toNat) := by
  have hc : 48 ≤ c.toNat ∧ c.toNat ≤ 57 := by
    simp only [Char.isDigit, ge_iff_le, Bool.and_eq_true, decide_eq_true_eq] at h
    exact ⟨h.1, h.2⟩
  rw [digit?, zeros, List.find?_cons_of_pos (by simp [hc.1, hc.2])]
  rfl

theorem isDigit_of_mem_ofNat {n : Nat} {c : Char} (h : c ∈ ofNat n) : isDigit c = true := by
  rw [isDigit, digit?_of_isDigit (Nat.isDigit_of_mem_toDigits (by omega) (by omega) h)]
  rfl

/-- The digits of a number are those of ASCII. -/
theorem toNat_of_mem_ofNat {n : Nat} {c : Char} (h : c ∈ ofNat n) : 48 ≤ c.toNat ∧ c.toNat ≤ 57 := by
  have hc : c.isDigit = true := Nat.isDigit_of_mem_toDigits (by omega) (by omega) h
  simp only [Char.isDigit, ge_iff_le, Bool.and_eq_true, decide_eq_true_eq] at hc
  exact ⟨hc.1, hc.2⟩

theorem not_mem_ofNat {c : Char} (h : 57 < c.toNat) (n : Nat) : c ∉ ofNat n := fun hmem ↦
  absurd (toNat_of_mem_ofNat hmem).2 (Nat.not_le.mpr h)

theorem not_isLineBreak_ofNat (n : Nat) : ∀ c ∈ ofNat n, isLineBreak c = false := by
  intro c hc
  obtain ⟨hlow, hhigh⟩ := toNat_of_mem_ofNat hc
  exact not_isLineBreak_of_toNat (by omega) (by omega)

theorem ofNat_ne_nil (n : Nat) : ofNat n ≠ [] := Nat.toDigits_ne_nil

/-- **The digits of a number denote the number.** -/
theorem valueOf_ofNat (n : Nat) : valueOf (ofNat n) = n := by
  have h : ∀ (t : Text) (m : Nat), (∀ c ∈ t, c.isDigit = true) →
      t.foldl (fun n c ↦ 10 * n + (digit? c).getD 0) m = Nat.ofDigitChars 10 t m := by
    intro t
    induction t with
    | nil => exact fun _ _ ↦ rfl
    | cons c t ih =>
      intro m hall
      rw [List.foldl_cons, Nat.ofDigitChars_cons, digit?_of_isDigit (hall c List.mem_cons_self),
        ih _ fun d hd ↦ hall d (List.mem_cons_of_mem _ hd)]
      rfl
  have hdigits : ∀ c ∈ ofNat n, c.isDigit = true := fun c hc ↦
    Nat.isDigit_of_mem_toDigits (by omega) (by omega) hc
  rw [valueOf, h _ _ hdigits]
  exact Nat.ofDigitChars_toDigits (by omega) (by omega)

theorem length_ofNat_le_iff {n k : Nat} (hk : 0 < k) : (ofNat n).length ≤ k ↔ n < 10 ^ k :=
  Nat.length_toDigits_le_iff (by omega) hk

theorem digit?_le {c : Char} {d : Nat} (h : digit? c = some d) : d ≤ 9 := by
  obtain ⟨z, hz, rfl⟩ := Option.map_eq_some_iff.mp h
  have := List.find?_some hz
  simp only [Bool.and_eq_true, decide_eq_true_eq] at this
  omega

theorem valueOf_lt (t : Text) : valueOf t < 10 ^ t.length := by
  -- for any accumulator; every further digit takes the bound up by a factor of ten
  have h : ∀ (t : Text) (m : Nat),
      t.foldl (fun n c ↦ 10 * n + (digit? c).getD 0) m < (m + 1) * 10 ^ t.length := by
    intro t
    induction t with
    | nil => intro m; simp
    | cons c t ih =>
      intro m
      have hd : (digit? c).getD 0 ≤ 9 := by
        cases hc : digit? c with
        | none => simp
        | some d => simpa using digit?_le hc
      refine Nat.lt_of_lt_of_le (ih _) ?_
      rw [List.length_cons, Nat.pow_succ']
      calc (10 * m + (digit? c).getD 0 + 1) * 10 ^ t.length
          ≤ (m + 1) * 10 * 10 ^ t.length := Nat.mul_le_mul_right _ (by omega)
        _ = (m + 1) * (10 * 10 ^ t.length) := Nat.mul_assoc ..
  simpa [valueOf] using h t 0

/-- **Leading zeros only make a numeral longer.** -/
theorem length_ofNat_valueOf_le {t : Text} (ht : t ≠ []) :
    (ofNat (valueOf t)).length ≤ t.length :=
  (length_ofNat_le_iff (List.length_pos_iff.mpr ht)).mpr (valueOf_lt t)

end StyleLinter.Text
