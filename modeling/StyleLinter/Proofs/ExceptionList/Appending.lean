import StyleLinter.Proofs.ExceptionList.Listing

/-!
# Appending to a list

Records whose keys a list does not have yet can be written below it, one on each line, and the
longer list reads as the records it had, followed by these (`parse_append`). The list may be one
that people wrote; **all that is asked of it is that its last line ends with a line feed**, since
the first of the new lines would run into it otherwise.
-/

namespace StyleLinter.ExceptionList

/-- **Lines of records that are new to a list** are read after the lines of the list. -/
theorem parseLines_append {ls : List Text} {seen : List (Key × Nat)} {n : Nat}
    {rs new : List Record} (h : parseLines seen n ls = .ok rs) (hnew : ∀ r ∈ new, r.IsListable)
    (hnd : ((rs ++ new).map (·.key)).Nodup) (hseen : ∀ r ∈ new, seen.lookup r.key = none) :
    parseLines seen n (ls ++ new.map (·.toText)) = .ok (rs ++ new) := by
  induction ls generalizing seen n rs with
  | nil =>
    obtain rfl := Except.ok.inj h
    exact parseLines_map_toText hnew hnd hseen
  | cons l ls ih =>
    rw [List.cons_append]
    simp only [parseLines] at h ⊢
    split at h
    · next hskip =>
      rw [if_pos hskip]
      exact ih h hnd hseen
    · next hskip =>
      rw [if_neg hskip]
      split at h
      · cases h
      · next r hr =>
        split at h
        · cases h
        · next hnone =>
          obtain ⟨rs, hrs, rfl⟩ := map_eq_ok_iff.mp h
          rw [List.cons_append, List.map_cons, List.nodup_cons] at hnd
          -- the key of this line is now among those seen, and no new record has it
          have hrest : ∀ q ∈ new, ((r.key, n) :: seen).lookup q.key = none := by
            intro q hq
            have hne : q.key ≠ r.key := fun he ↦
              hnd.1 (List.mem_map.mpr ⟨q, List.mem_append_right _ hq, he⟩)
            rw [List.lookup_cons, beq_false_of_ne hne]
            exact hseen q hq
          rw [ih hrs hnd.2 hrest]
          rfl

/-- **What is appended to a list is read after it.** -/
theorem parse_append {text source : Text} {rs new : List Record} (h : parse text source = .ok rs)
    (hend : ∀ c, text.getLast? = some c → c = '\n') (hnew : ∀ r ∈ new, r.IsListable)
    (hnd : ((rs ++ new).map (·.key)).Nodup) :
    parse (text ++ new.flatMap fun r ↦ r.toText ++ ['\n']) source = .ok (rs ++ new) := by
  have hlines : Text.lines (new.flatMap fun r ↦ r.toText ++ ['\n']) = new.map (·.toText) := by
    rw [← List.flatMap_map Record.toText (· ++ ['\n']), Text.lines_flatMap]
    intro l hl
    obtain ⟨r, hr, rfl⟩ := List.mem_map.mp hl
    exact not_isLineBreak_toText (hnew r hr)
  rw [parse, Text.lines_append hend, hlines,
    parseLines_append (mapError_eq_ok_iff.mp h) hnew hnd fun _ _ ↦ rfl]
  rfl

/-- The lines of listable records do not begin with a line feed. -/
theorem head?_flatMap_toText {rs : List Record} (hr : ∀ r ∈ rs, r.IsListable) :
    (rs.flatMap fun r ↦ r.toText ++ ['\n']).head? ≠ some '\n' := by
  cases rs with
  | nil => nofun
  | cons r rs =>
    intro h
    have hne : r.toText ≠ [] := by
      rw [toText_eq_lineOf, lineOf]
      simp
    rw [List.flatMap_cons, List.append_assoc, List.head?_append_of_ne_nil _ hne] at h
    have hbreak := not_isLineBreak_toText (hr r List.mem_cons_self) _ (List.mem_of_head? h)
    exact absurd hbreak (by decide)

/-- **Appending to the text of a list is appending to the text that is read.** -/
theorem unifyNewlines_append {rs : List Record} (hr : ∀ r ∈ rs, r.IsListable) (text : Text) :
    Text.unifyNewlines (text ++ rs.flatMap fun r ↦ r.toText ++ ['\n']) =
      Text.unifyNewlines text ++ rs.flatMap fun r ↦ r.toText ++ ['\n'] := by
  rw [Text.unifyNewlines_append text (head?_flatMap_toText hr),
    Text.unifyNewlines_eq_self (not_mem_flatMap_toText hr)]

end StyleLinter.ExceptionList
