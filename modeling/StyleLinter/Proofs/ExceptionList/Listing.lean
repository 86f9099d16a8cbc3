import StyleLinter.Proofs.ExceptionList.Line
import StyleLinter.Proofs.Order
import StyleLinter.Proofs.Text.Newlines

/-!
# A list and its records

What a list that was written is read as: `parse_render` gives the records in the order of their
keys, of several with one key the last (`lastOfEach`). All that it needs to know of a record is that
it is listable, and **a list that can be read at all has listable records only**
(`isListable_of_parse`), so records that were read once can be written and read again.

The text depends on the set of the records alone when no two of them have the same key
(`render_eq_of_perm`). This is why writing a list a second time changes nothing, although the
records come in another order.
-/

namespace StyleLinter.ExceptionList

/-! ### The last record of each key -/

theorem lastOfEach_cons (r : Record) (rs : List Record) :
    lastOfEach (r :: rs) =
      if (lastOfEach rs).any (·.key = r.key) then lastOfEach rs else r :: lastOfEach rs := rfl

theorem mem_of_mem_lastOfEach {rs : List Record} {r : Record} (h : r ∈ lastOfEach rs) : r ∈ rs := by
  induction rs with
  | nil => exact h
  | cons s rs ih =>
    rw [lastOfEach_cons] at h
    split at h
    · exact List.mem_cons_of_mem _ (ih h)
    · rcases List.mem_cons.mp h with rfl | h
      · exact List.mem_cons_self
      · exact List.mem_cons_of_mem _ (ih h)

/-- **No key is lost.** -/
theorem exists_mem_lastOfEach {rs : List Record} {r : Record} (h : r ∈ rs) :
    ∃ s ∈ lastOfEach rs, s.key = r.key := by
  induction rs with
  | nil => exact absurd h List.not_mem_nil
  | cons q rs ih =>
    rw [lastOfEach_cons]
    split
    · next hany =>
      rcases List.mem_cons.mp h with rfl | h
      · obtain ⟨s, hs, he⟩ := List.any_eq_true.mp hany
        exact ⟨s, hs, of_decide_eq_true he⟩
      · exact ih h
    · rcases List.mem_cons.mp h with rfl | h
      · exact ⟨r, List.mem_cons_self, rfl⟩
      · obtain ⟨s, hs, he⟩ := ih h
        exact ⟨s, List.mem_cons_of_mem _ hs, he⟩

theorem nodup_keys_lastOfEach (rs : List Record) : ((lastOfEach rs).map (·.key)).Nodup := by
  induction rs with
  | nil => exact List.nodup_nil
  | cons r rs ih =>
    rw [lastOfEach_cons]
    split
    · exact ih
    · next hr =>
      rw [List.map_cons, List.nodup_cons]
      refine ⟨fun hmem ↦ hr ?_, ih⟩
      obtain ⟨s, hs, he⟩ := List.mem_map.mp hmem
      exact List.any_eq_true.mpr ⟨s, hs, decide_eq_true he⟩

/-- **Records with distinct keys are all kept.** -/
theorem lastOfEach_eq_self {rs : List Record} (h : (rs.map (·.key)).Nodup) : lastOfEach rs = rs := by
  induction rs with
  | nil => rfl
  | cons r rs ih =>
    rw [List.map_cons, List.nodup_cons] at h
    rw [lastOfEach_cons, ih h.2, if_neg]
    intro hany
    obtain ⟨s, hs, he⟩ := List.any_eq_true.mp hany
    exact h.1 (List.mem_map.mpr ⟨s, hs, of_decide_eq_true he⟩)

/-! ### Writing and reading -/

/-- The lines of listable records with distinct keys are read one for one. -/
theorem parseLines_map_toText {rs : List Record} (hr : ∀ r ∈ rs, r.IsListable)
    (hnd : (rs.map (·.key)).Nodup) {seen : List (Key × Nat)} {n : Nat}
    (hseen : ∀ r ∈ rs, seen.lookup r.key = none) :
    parseLines seen n (rs.map (·.toText)) = .ok rs := by
  induction rs generalizing seen n with
  | nil => rfl
  | cons r rs ih =>
    have hlist := hr r List.mem_cons_self
    rw [List.map_cons, List.nodup_cons] at hnd
    -- the key of this record is now among those seen, and none of the others has it
    have hrest : ∀ s ∈ rs, ((r.key, n) :: seen).lookup s.key = none := by
      intro s hs
      have hne : s.key ≠ r.key := fun h ↦ hnd.1 (List.mem_map.mpr ⟨s, hs, h⟩)
      rw [List.lookup_cons, beq_false_of_ne hne]
      exact hseen s (List.mem_cons_of_mem _ hs)
    rw [List.map_cons, parseLines, not_isSkipped_toText hlist, parseLine_toText hlist]
    simp only [hseen r List.mem_cons_self, Bool.false_eq_true, if_false]
    rw [ih (fun s hs ↦ hr s (List.mem_cons_of_mem _ hs)) hnd.2 hrest]
    rfl

theorem render_eq (rs : List Record) :
    render rs = ((Record.sorted (lastOfEach rs)).map (·.toText)).flatMap (· ++ ['\n']) := by
  rw [List.flatMap_map]
  rfl

theorem mem_of_mem_sorted_lastOfEach {rs : List Record} {r : Record}
    (h : r ∈ Record.sorted (lastOfEach rs)) : r ∈ rs :=
  mem_of_mem_lastOfEach (Record.mem_sorted.mp h)

theorem lines_render {rs : List Record} (hr : ∀ r ∈ rs, r.IsListable) :
    Text.lines (render rs) = (Record.sorted (lastOfEach rs)).map (·.toText) := by
  rw [render_eq, Text.lines_flatMap]
  intro l hl
  obtain ⟨r, hmem, rfl⟩ := List.mem_map.mp hl
  exact not_isLineBreak_toText (hr r (mem_of_mem_sorted_lastOfEach hmem))

/-- **A list is read as it was written**: in the order of keys, and each key once. -/
theorem parse_render {rs : List Record} (hr : ∀ r ∈ rs, r.IsListable) (source : Text) :
    parse (render rs) source = .ok (Record.sorted (lastOfEach rs)) := by
  have hlines : parseLines [] 1 ((Record.sorted (lastOfEach rs)).map (·.toText)) = _ :=
    parseLines_map_toText (fun r h ↦ hr r (mem_of_mem_sorted_lastOfEach h))
      (Record.nodup_keys_sorted (nodup_keys_lastOfEach rs)) fun _ _ ↦ rfl
  rw [parse, lines_render hr, hlines]
  rfl

/-- **Records are written if each of them can be**, and only then. -/
theorem write_eq_ok_iff {rs : List Record} {text : Text} : write rs = .ok text ↔
    (∀ r ∈ rs, r.isWritable = true) ∧ text = render rs := by
  unfold write
  split
  · next h =>
    rw [List.all_eq_true] at h
    exact ⟨fun he ↦ ⟨h, (Except.ok.inj he).symm⟩, fun he ↦ he.2 ▸ rfl⟩
  · next h =>
    rw [List.all_eq_true] at h
    exact ⟨nofun, fun he ↦ absurd he.1 h⟩

/-- **Records with distinct keys are all written**, each of them once, in the order of their
keys. -/
theorem exists_lines_of_write {rs : List Record} (hnd : (rs.map (·.key)).Nodup) :
    ∃ listed : List Record, listed.Perm rs ∧ listed.Pairwise Record.Precedes ∧
      ∀ text, write rs = .ok text ↔
        (∀ r ∈ rs, r.isWritable = true) ∧ text = listed.flatMap fun r ↦ r.toText ++ ['\n'] := by
  refine ⟨Record.sorted rs, Record.sorted_perm rs, Record.pairwise_precedes_sorted hnd, fun text ↦ ?_⟩
  rw [write_eq_ok_iff, render_eq, lastOfEach_eq_self hnd, List.flatMap_map]

/-- The lines of listable records have no carriage returns. -/
theorem not_mem_flatMap_toText {rs : List Record} (hr : ∀ r ∈ rs, r.IsListable) :
    '\r' ∉ rs.flatMap fun r ↦ r.toText ++ ['\n'] := by
  intro hmem
  obtain ⟨r, hmem, hc⟩ := List.mem_flatMap.mp hmem
  rcases List.mem_append.mp hc with hc | hc
  · exact absurd (not_isLineBreak_toText (hr r hmem) _ hc) (by decide)
  · exact absurd hc (by decide)

/-- A list has no carriage returns, so reading it as text changes nothing. -/
theorem unifyNewlines_render {rs : List Record} (hr : ∀ r ∈ rs, r.IsListable) :
    Text.unifyNewlines (render rs) = render rs :=
  Text.unifyNewlines_eq_self
    (not_mem_flatMap_toText fun r hmem ↦ hr r (mem_of_mem_sorted_lastOfEach hmem))

/-- **The text depends on the set of the records alone** when their keys are distinct. -/
theorem render_eq_of_perm {rs rs' : List Record} (hp : rs.Perm rs') (hnd : (rs.map (·.key)).Nodup) :
    render rs = render rs' := by
  have hnd' : (rs'.map (·.key)).Nodup := (hp.map _).nodup_iff.mp hnd
  have hsorted : Record.sorted rs = Record.sorted rs' :=
    Record.eq_of_perm_of_sorted
      ((Record.sorted_perm rs).trans (hp.trans (Record.sorted_perm rs').symm))
      (Record.pairwise_precedes_sorted hnd) (Record.pairwise_precedes_sorted hnd')
  rw [render_eq, render_eq, lastOfEach_eq_self hnd, lastOfEach_eq_self hnd', hsorted]

/-! ### Any list that can be read -/

theorem isListable_of_parseLines {ls : List Text} (hl : ∀ l ∈ ls, ∀ c ∈ l, Text.isLineBreak c = false)
    {seen : List (Key × Nat)} {n : Nat} {rs : List Record} (h : parseLines seen n ls = .ok rs) :
    ∀ r ∈ rs, r.IsListable := by
  induction ls generalizing seen n rs with
  | nil =>
    obtain rfl := Except.ok.inj h
    exact fun r hr ↦ absurd hr List.not_mem_nil
  | cons l ls ih =>
    have hls : ∀ m ∈ ls, ∀ c ∈ m, Text.isLineBreak c = false :=
      fun m hm ↦ hl m (List.mem_cons_of_mem _ hm)
    have hbreak : ∀ c ∈ Text.trim l, Text.isLineBreak c = false :=
      fun c hc ↦ hl l List.mem_cons_self c (Text.mem_of_mem_trim hc)
    simp only [parseLines] at h
    split at h
    · exact ih hls h
    · next hskip =>
      split at h
      · exact absurd h nofun
      · next r hr =>
        split at h
        · exact absurd h nofun
        · obtain ⟨rs', hrs', rfl⟩ := map_eq_ok_iff.mp h
          intro s hs
          rcases List.mem_cons.mp hs with rfl | hs
          · exact isListable_of_parseLine hbreak (Text.trim_trim l) (Bool.eq_false_iff.mpr hskip) hr
          · exact ih hls hrs' s hs

/-- **What is read from a list is listable.** -/
theorem isListable_of_parse {text source : Text} {rs : List Record}
    (h : parse text source = .ok rs) : ∀ r ∈ rs, r.IsListable :=
  isListable_of_parseLines (fun _ hl _ hc ↦ Text.not_isLineBreak_of_mem_lines hl hc)
    (mapError_eq_ok_iff.mp h)

end StyleLinter.ExceptionList
