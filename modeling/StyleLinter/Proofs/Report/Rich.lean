import StyleLinter.Proofs.Console.Closing
import StyleLinter.Proofs.Console.Markup
import StyleLinter.Proofs.Kind
import StyleLinter.Proofs.Text.Numeral
import StyleLinter.Proofs.Text.Pieces
import StyleLinter.Report.Rich

/-!
# When the rich report fails

Whatever the layout, the page's own words, its numbers and the kinds of the findings have no
brackets (`no_bracket_kindNumbers`), so none of them can make the report fail. Paths and messages
can: **the report fails exactly if a path or a message that stands in a table closes a style that is
not open there** (`exists_page_iff`). A directory `[` with a file `b].lean` in it is enough.
Findings that are not listed, since the exempt ones are not asked for or the tables are cut, do no
harm.
-/

namespace StyleLinter

open Console

/-- The tag of a kind has no bracket. -/
theorem Kind.no_bracket_of_isTag {kind : Text} (h : isTag kind = true) : '[' ∉ kind := by
  intro hmem
  rcases isInner_or_eq_newline h hmem with hinner | hnewline
  · exact absurd hinner (by decide)
  · exact absurd hnewline (by decide)

namespace Report.Rich

open Markup

variable {layout : Layout} {r : Result} {v : Violation} {vs : List Violation} {title t : Text}

/-! ### What the page says by itself -/

theorem no_bracket_ofNat (n : Nat) : '[' ∉ Text.ofNat n := Text.not_mem_ofNat (by decide) n

theorem no_bracket_numbers (r : Result) : '[' ∉ numbers r := by
  unfold numbers
  simp only [List.mem_append, not_or]
  exact ⟨⟨⟨⟨⟨by decide, no_bracket_ofNat _⟩, by decide⟩, no_bracket_ofNat _⟩, by decide⟩,
    no_bracket_ofNat _⟩

theorem no_bracket_missing (n : Nat) : '[' ∉ missing n := by
  unfold missing
  simp only [List.mem_append, not_or]
  exact ⟨⟨by decide, no_bracket_ofNat _⟩, by decide⟩

/-- Kinds have no brackets, and so have the numbers of their findings. -/
theorem no_bracket_kindNumbers (vs : List Violation) : '[' ∉ kindNumbers vs := by
  unfold kindNumbers
  simp only [List.mem_append, not_or]
  refine ⟨⟨by decide, fun h ↦ ?_⟩, by decide⟩
  obtain h | ⟨t, ht, hmem⟩ := Text.mem_joinWith h
  · exact absurd h (by decide)
  · obtain ⟨⟨k, n⟩, hkind, rfl⟩ := List.mem_map.mp ht
    obtain ⟨k, hk, hpair⟩ := List.mem_map.mp hkind
    cases hpair
    obtain ⟨v, -, rfl⟩ := List.mem_map.mp (List.mem_eraseDups.mp (List.mem_mergeSort.mp hk))
    rcases List.mem_append.mp hmem with hmem | hmem
    · rcases List.mem_append.mp hmem with hmem | hmem
      · exact Kind.no_bracket_of_isTag v.key.kind_isTag hmem
      · exact absurd hmem (by decide)
    · exact no_bracket_ofNat _ hmem

/-- Text without brackets can be put on the page. -/
theorem exists_printed (h : '[' ∉ t) (width : Nat) : ∃ ls, printed width t = .ok ls := by
  obtain ⟨shown, hshown⟩ := plain?_of_no_bracket h
  exact ⟨_, map_eq_ok_iff.mpr ⟨shown, hshown, rfl⟩⟩

/-! ### Tables -/

/-- The findings that stand in a table. -/
def listed (layout : Layout) (r : Result) : List Violation :=
  shown layout r.new ++ if layout.showSuppressed then shown layout r.suppressed else []

theorem shown_nil (layout : Layout) : shown layout [] = [] := by
  unfold shown
  split
  · rfl
  · exact List.take_nil

/-- **A finding has a row** exactly if its path and its message close only what is open. -/
theorem exists_row_iff :
    (∃ cells, row v = .ok cells) ↔ ClosesOnlyOpen v.key.path ∧ ClosesOnlyOpen v.message := by
  rw [← exists_plain?_iff, ← exists_plain?_iff, row, exists_mapM_iff]
  constructor
  · intro h
    exact ⟨h _ (by simp), h _ (by simp)⟩
  · rintro ⟨hpath, hmessage⟩ t ht
    simp only [List.mem_cons, List.not_mem_nil, or_false] at ht
    rcases ht with rfl | rfl | rfl | rfl
    · exact hpath
    · exact plain?_of_no_bracket (no_bracket_ofNat _)
    · exact plain?_of_no_bracket (Kind.no_bracket_of_isTag v.key.kind_isTag)
    · exact hmessage

/-- A table is its rows and the line about those that are missing. -/
theorem table_eq (layout : Layout) (title : Text) (vs : List Violation) :
    table layout title vs =
      ((shown layout vs).mapM row >>= fun rows ↦
        (if vs.length - (shown layout vs).length = 0 then pure []
          else printed layout.width (missing (vs.length - (shown layout vs).length))) >>= fun more ↦
        pure ((Table.mk title columns rows).lines ++ more ++ [[]])) := by
  unfold table
  dsimp only
  split <;> rfl

/-- **A table can be made** exactly if each finding that it shows has a row. -/
theorem exists_table_iff :
    (∃ ls, table layout title vs = .ok ls) ↔
      ∀ v ∈ shown layout vs, ClosesOnlyOpen v.key.path ∧ ClosesOnlyOpen v.message := by
  have hmore (hidden : Nat) : ∃ more,
      (if hidden = 0 then pure [] else printed layout.width (missing hidden)) = Except.ok more := by
    split
    · exact ⟨_, rfl⟩
    · exact exists_printed (no_bracket_missing _) _
  rw [table_eq]
  refine (exists_bind_iff (P := True) fun rows ↦ ?_).trans ?_
  · exact iff_of_true ((exists_bind_iff fun more ↦ iff_of_true ⟨_, rfl⟩ trivial).mpr
      ⟨hmore _, trivial⟩) trivial
  · rw [and_true, exists_mapM_iff]
    exact forall₂_congr fun _ _ ↦ exists_row_iff

/-! ### The page -/

/-- The page is made of its parts, one after the other. -/
theorem lines_eq (layout : Layout) (r : Result) :
    lines layout r =
      (printed layout.width (numbers r) >>= fun numberLines ↦
        (if r.new.isEmpty then pure [] else printed layout.width (kindNumbers r.new)) >>=
          fun kindLines ↦
        (if r.new.isEmpty then pure [] else table layout "NEW VIOLATIONS" r.new) >>= fun new ↦
        (if layout.showSuppressed && !r.suppressed.isEmpty then
          table layout "SUPPRESSED" r.suppressed else pure []) >>= fun suppressed ↦
        printed layout.width
          ("Result: " ++ if r.passed then "PASSED".toList else "FAILED".toList) >>=
          fun verdict ↦
        pure ([[], heading layout.width, []] ++ numberLines ++ kindLines ++ [[]] ++ new
          ++ suppressed ++ verdict)) := by
  unfold lines
  cases r.new.isEmpty <;> cases layout.showSuppressed && !r.suppressed.isEmpty <;> rfl

/-- A table of nothing is left out, which makes no difference to what can fail. -/
theorem exists_unless_isEmpty_iff :
    (∃ ls, (if vs.isEmpty then pure [] else table layout title vs) = Except.ok ls) ↔
      ∀ v ∈ shown layout vs, ClosesOnlyOpen v.key.path ∧ ClosesOnlyOpen v.message := by
  split
  · next hempty =>
    rw [List.isEmpty_iff.mp hempty, shown_nil]
    exact iff_of_true ⟨_, rfl⟩ nofun
  · exact exists_table_iff

/-- **The lines can be made** exactly if the rows of both tables can. -/
theorem exists_lines_iff :
    (∃ ls, lines layout r = .ok ls) ↔
      ∀ v ∈ listed layout r, ClosesOnlyOpen v.key.path ∧ ClosesOnlyOpen v.message := by
  have hnumbers := exists_printed (no_bracket_numbers r) layout.width
  have hkinds : ∃ ls,
      (if r.new.isEmpty then pure [] else printed layout.width (kindNumbers r.new)) =
      Except.ok ls := by
    split
    · exact ⟨_, rfl⟩
    · exact exists_printed (no_bracket_kindNumbers _) _
  have hsuppressed : (∃ ls, (if layout.showSuppressed && !r.suppressed.isEmpty then
      table layout "SUPPRESSED" r.suppressed else pure []) = Except.ok ls) ↔
        ∀ v ∈ if layout.showSuppressed then shown layout r.suppressed else [],
          ClosesOnlyOpen v.key.path ∧ ClosesOnlyOpen v.message := by
    cases layout.showSuppressed with
    | false => exact iff_of_true ⟨_, rfl⟩ nofun
    | true =>
      have hunless : (if true && !r.suppressed.isEmpty then
          table layout "SUPPRESSED" r.suppressed else pure []) =
            if r.suppressed.isEmpty then pure [] else table layout "SUPPRESSED" r.suppressed := by
        cases r.suppressed.isEmpty <;> rfl
      rw [hunless]
      exact exists_unless_isEmpty_iff
  have hverdict : ∃ ls, printed layout.width
      ("Result: " ++ if r.passed then "PASSED".toList else "FAILED".toList) = .ok ls := by
    refine exists_printed ?_ _
    cases r.passed <;> decide
  rw [lines_eq]
  refine (exists_bind_iff fun numberLines ↦ exists_bind_iff fun kindLines ↦
    exists_bind_iff fun new ↦ exists_bind_iff fun suppressed ↦ exists_bind_iff (P := True)
      fun verdict ↦ iff_of_true ⟨_, rfl⟩ trivial).trans ?_
  rw [exists_unless_isEmpty_iff, hsuppressed, listed, List.forall_mem_append]
  exact ⟨fun h ↦ ⟨h.2.2.1, h.2.2.2.1⟩, fun h ↦ ⟨hnumbers, hkinds, h.1, h.2, hverdict, trivial⟩⟩

/-- The page is its lines, put together. -/
theorem exists_page_iff_lines :
    (∃ text, page layout r = .ok text) ↔ ∃ ls, lines layout r = .ok ls := by
  constructor
  · rintro ⟨text, h⟩
    obtain ⟨ls, h, -⟩ := map_eq_ok_iff.mp h
    exact ⟨ls, h⟩
  · rintro ⟨ls, h⟩
    exact ⟨_, map_eq_ok_iff.mpr ⟨ls, h, rfl⟩⟩

/-- **The report does not fail** where no path and no message has a left bracket with a slash after
it. -/
theorem exists_page_of_no_closing (h : ∀ v ∈ listed layout r,
    ¬ ['[', '/'] <:+: v.key.path ∧ ¬ ['[', '/'] <:+: v.message) :
    ∃ text, page layout r = .ok text :=
  exists_page_iff_lines.mpr <| exists_lines_iff.mpr fun v hv ↦
    ⟨closesOnlyOpen_of_no_closing (h v hv).1, closesOnlyOpen_of_no_closing (h v hv).2⟩

/-- A directory `[` with a file `b].lean` in it. -/
def closingResult : Result where
  new := [⟨⟨⟨"A/[/b].lean", 1, "ERR_LIN", by decide, by decide, Nat.one_pos,
      Rule.lineLength.isTag_tag⟩,
    "Line has more than 100 characters"⟩, by decide⟩]
  suppressed := []
  files := 1

end Report.Rich

end StyleLinter
