import StyleLinter.Entry

/-!
# The order of keys

Texts compare by code points and keys by path, line and kind. Both orders are total, and two keys
that come before each other are equal, so **a list of entries with distinct keys can be sorted in
one way only** (`eq_of_perm_of_sorted`).
-/

namespace StyleLinter

/-! ### Texts -/

namespace Text

/-- The first characters that differ decide. -/
theorem le_cons_iff {c d : Char} {a b : Text} : le (c :: a) (d :: b) = true ↔
    c.toNat < d.toNat ∨ c.toNat = d.toNat ∧ le a b = true := by
  simp [le]

theorem le_refl (a : Text) : le a a = true := by
  induction a with
  | nil => rfl
  | cons c a ih => exact le_cons_iff.mpr (.inr ⟨rfl, ih⟩)

theorem le_trans {a b c : Text} (hab : le a b = true) (hbc : le b c = true) : le a c = true := by
  induction a generalizing b c with
  | nil => rfl
  | cons x a ih =>
    cases b with
    | nil => exact absurd hab nofun
    | cons y b =>
      cases c with
      | nil => exact absurd hbc nofun
      | cons z c =>
        rw [le_cons_iff] at hab hbc ⊢
        rcases hab with hxy | ⟨hxy, hab⟩
        · exact .inl (by omega)
        · rcases hbc with hyz | ⟨hyz, hbc⟩
          · exact .inl (by omega)
          · exact .inr ⟨hxy.trans hyz, ih hab hbc⟩

theorem le_total (a b : Text) : le a b = true ∨ le b a = true := by
  induction a generalizing b with
  | nil => exact .inl rfl
  | cons x a ih =>
    cases b with
    | nil => exact .inr rfl
    | cons y b =>
      rw [le_cons_iff, le_cons_iff]
      rcases Nat.lt_trichotomy x.toNat y.toNat with h | h | h
      · exact .inl (.inl h)
      · exact (ih b).imp (fun hab ↦ .inr ⟨h, hab⟩) fun hba ↦ .inr ⟨h.symm, hba⟩
      · exact .inr (.inl h)

theorem le_antisymm {a b : Text} (hab : le a b = true) (hba : le b a = true) : a = b := by
  induction a generalizing b with
  | nil =>
    cases b with
    | nil => rfl
    | cons y b => exact absurd hba nofun
  | cons x a ih =>
    cases b with
    | nil => exact absurd hab nofun
    | cons y b =>
      rw [le_cons_iff] at hab hba
      rcases hab with hxy | ⟨hxy, hab⟩
      · omega
      · rcases hba with hyx | ⟨-, hba⟩
        · omega
        · rw [ih hab hba, Char.toNat_inj.mp hxy]

/-- Does the first text come before the second, and are they not equal? -/
def Before (a b : Text) : Prop := le a b = true ∧ a ≠ b

instance : Std.Asymm Before where
  asymm _ _ hab hba := hab.2 (le_antisymm hab.1 hba.1)

instance : Std.Trichotomous Before where
  trichotomous a b hab hba := Decidable.byContradiction fun hne ↦
    (le_total a b).elim (fun h ↦ hab ⟨h, hne⟩) fun h ↦ hba ⟨h, Ne.symm hne⟩

end Text

/-! ### Keys -/

namespace Key

theorem eq_iff {a b : Key} : a = b ↔ a.path = b.path ∧ a.line = b.line ∧ a.kind = b.kind := by
  constructor
  · rintro rfl
    exact ⟨rfl, rfl, rfl⟩
  · intro h
    cases a
    cases b
    obtain ⟨rfl, rfl, rfl⟩ := h
    rfl

/-- One key comes before another by the first of the parts in which they differ. -/
theorem le_iff {a b : Key} : a.le b = true ↔
    a.path ≠ b.path ∧ Text.le a.path b.path = true ∨
      a.path = b.path ∧ (a.line < b.line ∨ a.line = b.line ∧ Text.le a.kind b.kind = true) := by
  unfold le
  by_cases hp : a.path = b.path
  · by_cases hl : a.line = b.line
    · simp [hp, hl]
    · have : a.line ≤ b.line ↔ a.line < b.line := by omega
      simp [hp, hl, this]
  · simp [hp]

theorem le_refl (a : Key) : a.le a = true :=
  le_iff.mpr (.inr ⟨rfl, .inr ⟨rfl, Text.le_refl _⟩⟩)

theorem le_total (a b : Key) : a.le b = true ∨ b.le a = true := by
  rw [le_iff, le_iff]
  by_cases hp : a.path = b.path
  · rcases Nat.lt_trichotomy a.line b.line with hl | hl | hl
    · exact .inl (.inr ⟨hp, .inl hl⟩)
    · rcases Text.le_total a.kind b.kind with hk | hk
      · exact .inl (.inr ⟨hp, .inr ⟨hl, hk⟩⟩)
      · exact .inr (.inr ⟨hp.symm, .inr ⟨hl.symm, hk⟩⟩)
    · exact .inr (.inr ⟨hp.symm, .inl hl⟩)
  · rcases Text.le_total a.path b.path with h | h
    · exact .inl (.inl ⟨hp, h⟩)
    · exact .inr (.inl ⟨Ne.symm hp, h⟩)

theorem le_antisymm {a b : Key} (hab : a.le b = true) (hba : b.le a = true) : a = b := by
  rcases le_iff.mp hab with ⟨hp, h⟩ | ⟨hp, h⟩
  · rcases le_iff.mp hba with ⟨-, h'⟩ | ⟨hp', -⟩
    · exact absurd (Text.le_antisymm h h') hp
    · exact absurd hp'.symm hp
  · rcases le_iff.mp hba with ⟨hp', -⟩ | ⟨-, h'⟩
    · exact absurd hp.symm hp'
    · rcases h with h | ⟨hl, hk⟩
      · omega
      · rcases h' with h' | ⟨-, hk'⟩
        · omega
        · exact eq_iff.mpr ⟨hp, hl, Text.le_antisymm hk hk'⟩

theorem le_trans {a b c : Key} (hab : a.le b = true) (hbc : b.le c = true) : a.le c = true := by
  rw [le_iff]
  rcases le_iff.mp hab with ⟨hp, h⟩ | ⟨hp, h⟩
  · rcases le_iff.mp hbc with ⟨hp', h'⟩ | ⟨hp', -⟩
    · refine .inl ⟨fun he ↦ hp (Text.le_antisymm h ?_), Text.le_trans h h'⟩
      rwa [he]
    · rw [← hp']
      exact .inl ⟨hp, h⟩
  · rw [hp]
    rcases le_iff.mp hbc with ⟨hp', h'⟩ | ⟨hp', h'⟩
    · exact .inl ⟨hp', h'⟩
    · refine .inr ⟨hp', ?_⟩
      rcases h with h | ⟨hl, hk⟩
      · rcases h' with h' | ⟨hl', -⟩
        · exact .inl (by omega)
        · exact .inl (by omega)
      · rcases h' with h' | ⟨hl', hk'⟩
        · exact .inl (by omega)
        · exact .inr ⟨by omega, Text.le_trans hk hk'⟩

end Key

/-! ### Sorted records -/

namespace Record

/-- Does the first record come strictly before the second? -/
def Precedes (a b : Record) : Prop := a.key.le b.key = true ∧ a.key ≠ b.key

/-- The records in the order of their keys. -/
def sorted (rs : List Record) : List Record := rs.mergeSort fun a b ↦ a.key.le b.key

theorem sorted_perm (rs : List Record) : (sorted rs).Perm rs := List.mergeSort_perm rs _

theorem mem_sorted {rs : List Record} {r : Record} : r ∈ sorted rs ↔ r ∈ rs := List.mem_mergeSort

theorem pairwise_sorted (rs : List Record) :
    (sorted rs).Pairwise fun a b ↦ a.key.le b.key = true := by
  have htrans : ∀ a b c : Record, a.key.le b.key = true → b.key.le c.key = true →
      a.key.le c.key = true := fun _ _ _ ↦ Key.le_trans
  have htotal : ∀ a b : Record, (a.key.le b.key || b.key.le a.key) = true := fun a b ↦ by
    rw [Bool.or_eq_true]
    exact Key.le_total a.key b.key
  exact List.pairwise_mergeSort htrans htotal rs

theorem nodup_keys_sorted {rs : List Record} (h : (rs.map (·.key)).Nodup) :
    ((sorted rs).map (·.key)).Nodup :=
  ((sorted_perm rs).map _).nodup_iff.mpr h

/-- **Distinct keys are sorted strictly.** -/
theorem pairwise_precedes_sorted {rs : List Record} (h : (rs.map (·.key)).Nodup) :
    (sorted rs).Pairwise Precedes := by
  have hnd := List.pairwise_map.mp (nodup_keys_sorted h)
  exact (pairwise_sorted rs).and hnd

/-- **Records with distinct keys can be sorted in one way only.** -/
theorem eq_of_perm_of_sorted {rs rs' : List Record} (hp : rs.Perm rs')
    (h : rs.Pairwise Precedes) (h' : rs'.Pairwise Precedes) : rs = rs' := by
  refine List.Perm.eq_of_pairwise (fun a b _ _ hab hba ↦ ?_) h h' hp
  exact absurd (Key.le_antisymm hab.1 hba.1) hab.2

end Record

end StyleLinter
