import StyleLinter.Proofs.Text.Lines

/-!
# Line endings made alike

Where line endings are made alike every carriage return is gone (`not_mem_unifyNewlines`), and
nothing but line feeds is brought in (`mem_of_mem_unifyNewlines`). So **line endings are alike
exactly where there is no carriage return** (`unifyNewlines_eq_self_iff`). Two texts are dealt with
one after the other (`unifyNewlines_append`), unless an ending is cut in two.
-/

namespace StyleLinter.Text

variable {t : Text}

theorem unifyNewlines_append (t : Text) {u : Text} (h : u.head? ≠ some '\n') :
    unifyNewlines (t ++ u) = unifyNewlines t ++ unifyNewlines u := by
  fun_induction unifyNewlines t with
  | case1 => rfl
  | case2 r ih =>
    rw [List.cons_append, List.cons_append, unifyNewlines, ih]
    rfl
  | case3 c r hr ih =>
    have hr' : ∀ r', c = '\r' → r ++ u = '\n' :: r' → False := by
      rintro r' rfl he
      rcases List.append_eq_cons_iff.mp he with ⟨rfl, rfl⟩ | ⟨s, rfl, -⟩
      · exact h rfl
      · exact hr s rfl rfl
    rw [List.cons_append, unifyNewlines.eq_3 _ _ hr', ih]
    rfl

theorem unifyNewlines_eq_self (h : '\r' ∉ t) : unifyNewlines t = t := by
  fun_induction unifyNewlines t with
  | case1 => rfl
  | case2 r ih => exact absurd List.mem_cons_self h
  | case3 c r _ ih =>
    rw [List.mem_cons, not_or] at h
    rw [if_neg (Ne.symm h.1), ih h.2]

/-- A character is a line feed afterwards, or it was there and is no carriage return. -/
theorem eq_or_mem_of_mem_unifyNewlines {c : Char} (h : c ∈ unifyNewlines t) :
    c = '\n' ∨ c ∈ t ∧ c ≠ '\r' := by
  fun_induction unifyNewlines t with
  | case1 => exact absurd h List.not_mem_nil
  | case2 r ih =>
    rcases List.mem_cons.mp h with rfl | h
    · exact .inl rfl
    · exact (ih h).imp_right (.imp_left fun h ↦ List.mem_cons_of_mem _ (List.mem_cons_of_mem _ h))
  | case3 d r _ ih =>
    rcases List.mem_cons.mp h with rfl | h
    · split
      · exact .inl rfl
      · next hd => exact .inr ⟨List.mem_cons_self, hd⟩
    · exact (ih h).imp_right (.imp_left (List.mem_cons_of_mem _))

/-- **Where line endings are alike there is no carriage return.** -/
theorem not_mem_unifyNewlines (t : Text) : '\r' ∉ unifyNewlines t := fun h ↦
  (eq_or_mem_of_mem_unifyNewlines h).elim (by decide) fun h ↦ h.2 rfl

/-- Making line endings alike brings in nothing but line feeds. -/
theorem mem_of_mem_unifyNewlines {c : Char} (h : c ∈ unifyNewlines t) : c = '\n' ∨ c ∈ t :=
  (eq_or_mem_of_mem_unifyNewlines h).imp_right And.left

theorem unifyNewlines_ne_nil (h : t ≠ []) : unifyNewlines t ≠ [] := by
  fun_cases unifyNewlines t with
  | case1 => exact absurd rfl h
  | case2 => nofun
  | case3 => nofun

/-- **Line endings are alike exactly where there is no carriage return.** -/
theorem unifyNewlines_eq_self_iff : unifyNewlines t = t ↔ '\r' ∉ t :=
  ⟨fun h ↦ h ▸ not_mem_unifyNewlines t, unifyNewlines_eq_self⟩

end StyleLinter.Text
