import Mathlib.Data.List.TakeWhile
import StyleLinter.Proofs.Check.Findings
import StyleLinter.Proofs.Text.Fields

/-!
# The grammar of documented modules

Lines that document a module are a header, if any, then lines that may stand before the
documentation, and then the documentation. `HeaderEnds` says where the header ends. This takes one
of three forms, as there may be no header, a closed one, or one that is never closed. `IsSplit` cuts
what comes after it **at the first line that may not stand there**, wherever this is, at the end of
the file as well as inside it.

All else is read off this cut: whether the module is documented (`IsSplit.isDocumented_iff`), and
what is found (`findings_of_isSplit`). More lines that may stand before the documentation only move
the cut (`IsSplit.append_left`). So they make **no difference to whether a file with a closed header
passes**.
-/

namespace StyleLinter.Check.Documentation

variable {text header after between rest lines : List Text} {h : Nat}

/-! ### The header -/

/-- Is this a header, from its opening line to its closing one? -/
def IsClosedHeader (header : List Text) : Prop :=
  ∃ before, before.head? = some Header.opening ∧ Header.closing ∉ before ∧
    header = before ++ [Header.closing]

/-- How many lines the header takes that the lines begin with. -/
inductive HeaderEnds (text : List Text) : Nat → Prop
  | /-- The first line opens no header. -/
    absent : text.head? ≠ some Header.opening → HeaderEnds text 0
  | /-- The header ends with the first line that closes it. -/
    closed {header rest : List Text} : IsClosedHeader header → text = header ++ rest →
      HeaderEnds text header.length
  | /-- No line closes the header, so it takes all of them. -/
    unclosed : text.head? = some Header.opening → Header.closing ∉ text →
      HeaderEnds text text.length

theorem HeaderEnds.le_length (hends : HeaderEnds text h) : h ≤ text.length := by
  cases hends with
  | absent => exact Nat.zero_le _
  | closed hclosed htext =>
    rw [htext, List.length_append]
    exact Nat.le_add_right _ _
  | unclosed => exact Nat.le_refl _

theorem exists_headerEnds (text : List Text) : ∃ h, HeaderEnds text h := by
  by_cases hopen : text.head? = some Header.opening
  · by_cases hclose : Header.closing ∈ text
    · obtain ⟨before, rest, rfl, hbefore⟩ := List.eq_append_cons_of_mem hclose
      -- the line that opens the header is another one than the line that closes it
      have hhead : before.head? = some Header.opening := by
        cases before with
        | nil => exact absurd (Option.some.inj hopen) (by decide)
        | cons line before => exact hopen
      exact ⟨_, .closed ⟨before, hhead, hbefore, rfl⟩ (List.append_cons ..)⟩
    · exact ⟨_, .unclosed hopen hclose⟩
  · exact ⟨_, .absent hopen⟩

/-- Where no line of these closes a header, none ends the search for one. -/
theorem ne_closing_of_not_mem (hclose : Header.closing ∉ text) :
    ∀ line ∈ text, (line != Header.closing) = true := by
  intro line hline
  rw [bne_iff_ne]
  exact ne_of_mem_of_not_mem hline hclose

/-- **The header ends where the checker goes on**, and nowhere else. -/
theorem HeaderEnds.headerLength (hends : HeaderEnds text h) : headerLength text = h := by
  cases hends with
  | absent hopen => exact if_neg hopen
  | @closed header rest hclosed htext =>
    obtain ⟨before, hhead, hbefore, rfl⟩ := hclosed
    subst htext
    have hopen : (before ++ [Header.closing] ++ rest).head? = some Header.opening := by
      rw [List.append_assoc, List.head?_append, hhead]
      rfl
    have htake : (before ++ [Header.closing] ++ rest).takeWhile (· != Header.closing) = before := by
      rw [List.append_assoc, List.takeWhile_append_of_pos (ne_closing_of_not_mem hbefore),
        List.singleton_append, List.takeWhile_cons_of_neg (by decide), List.append_nil]
    rw [Documentation.headerLength, if_pos hopen, htake]
    simp only [List.length_append, List.length_singleton]
    omega
  | unclosed hopen hclose =>
    have htake : text.takeWhile (· != Header.closing) = text :=
      List.takeWhile_eq_self_iff.mpr (ne_closing_of_not_mem hclose)
    rw [Documentation.headerLength, if_pos hopen, htake]
    exact Nat.min_eq_right (Nat.le_succ _)

/-! ### The lines after the header -/

/-- May the line stand between the header and the documentation? It is blank or an import. -/
def IsBetween (line : Text) : Prop := line = [] ∨ "import ".toList <+: line

theorem isSkipped_iff {line : Text} : isSkipped line = true ↔ IsBetween line := by
  rw [isSkipped, Bool.or_eq_true, List.isEmpty_iff, Text.startsWith, List.isPrefixOf_iff_prefix]
  rfl

/-- Do the lines after the header come to the documentation of the module? -/
def IsDocumented (after : List Text) : Prop :=
  ∃ between line rest, after = between ++ line :: rest ∧ (∀ l ∈ between, IsBetween l) ∧
    mark <+: line

/-- The lines after the header in two parts, cut at the first line that may not stand there. -/
structure IsSplit (after between rest : List Text) : Prop where
  /-- The parts are all of the lines. -/
  append : after = between ++ rest
  /-- All lines of the first part may stand there. -/
  isBetween : ∀ line ∈ between, IsBetween line
  /-- If the second part begins with a line, this one may not. -/
  stops : ∀ line ∈ rest.head?, ¬ IsBetween line

/-- What the documentation begins with may not stand before it. -/
theorem not_isBetween_of_mark {line : Text} (hmark : mark <+: line) : ¬ IsBetween line := by
  obtain ⟨r, rfl⟩ := hmark
  rintro (hnil | himport)
  · exact absurd hnil nofun
  · exact absurd himport (by simp [mark, List.cons_prefix_cons])

namespace IsSplit

theorem takeWhile_eq (hsplit : IsSplit after between rest) : after.takeWhile isSkipped = between := by
  have hpos : ∀ line ∈ between, isSkipped line = true := fun line hline ↦
    isSkipped_iff.mpr (hsplit.isBetween line hline)
  have hneg : ∀ line ∈ rest.head?, isSkipped line = false := fun line hline ↦
    Bool.eq_false_iff.mpr (mt isSkipped_iff.mp (hsplit.stops line hline))
  rw [hsplit.append]
  exact (takeWhile_append_of_stop hpos hneg).1

/-- **The lines are cut at one place only.** -/
theorem unique {between' rest' : List Text} (hsplit : IsSplit after between rest)
    (hsplit' : IsSplit after between' rest') : between' = between ∧ rest' = rest := by
  obtain rfl := hsplit'.takeWhile_eq.symm.trans hsplit.takeWhile_eq
  exact ⟨rfl, List.append_cancel_left (hsplit'.append.symm.trans hsplit.append)⟩

/-- More lines that may stand there belong to the first part. -/
theorem append_left {more : List Text} (hmore : ∀ line ∈ more, IsBetween line)
    (hsplit : IsSplit after between rest) : IsSplit (more ++ after) (more ++ between) rest where
  append := by rw [hsplit.append, List.append_assoc]
  isBetween := List.forall_mem_append.mpr ⟨hmore, hsplit.isBetween⟩
  stops := hsplit.stops

/-- **The module is documented** if the documentation is at the cut. -/
theorem isDocumented_iff (hsplit : IsSplit after between rest) :
    IsDocumented after ↔ ∃ line ∈ rest.head?, mark <+: line := by
  constructor
  · rintro ⟨between', line, rest', happend, hbetween, hmark⟩
    have hsplit' : IsSplit after between' (line :: rest') :=
      ⟨happend, hbetween, fun l hl ↦ Option.mem_some_iff.mp hl ▸ not_isBetween_of_mark hmark⟩
    rw [← (hsplit.unique hsplit').2]
    exact ⟨line, rfl, hmark⟩
  · rintro ⟨line, hline, hmark⟩
    obtain ⟨rest', rfl⟩ := List.head?_eq_some_iff.mp hline
    exact ⟨between, line, rest', hsplit.append, hsplit.isBetween, hmark⟩

end IsSplit

theorem exists_isSplit (after : List Text) : ∃ between rest, IsSplit after between rest := by
  refine ⟨after.takeWhile isSkipped, after.dropWhile isSkipped, List.takeWhile_append_dropWhile.symm,
    fun line hline ↦ isSkipped_iff.mp (List.mem_takeWhile_imp hline), fun line hline hbetween ↦ ?_⟩
  have hnot : isSkipped line = false := by
    simpa [Option.mem_def.mp hline] using List.head?_dropWhile_not isSkipped after
  exact Bool.false_ne_true (hnot.symm.trans (isSkipped_iff.mpr hbetween))

/-- **No documentation is found beyond a line** that is neither the documentation nor may stand
before it. -/
theorem isDocumented_append_iff {line : Text} (hbetween : ¬ IsBetween line) (hmark : ¬ mark <+: line)
    (before after : List Text) : IsDocumented (before ++ line :: after) ↔ IsDocumented before := by
  obtain ⟨between, rest, hsplit⟩ := exists_isSplit before
  have hhead : ∀ l ∈ (rest ++ line :: after).head?, l ∈ rest.head? ∨ l = line := by
    cases rest with
    | nil => exact fun l hl ↦ .inr (Option.some.inj hl).symm
    | cons l rest => exact fun l hl ↦ .inl hl
  have hsplit' : IsSplit (before ++ line :: after) between (rest ++ line :: after) :=
    ⟨by rw [hsplit.append, List.append_assoc], hsplit.isBetween,
      fun l hl ↦ (hhead l hl).elim (hsplit.stops l) fun he ↦ he ▸ hbetween⟩
  rw [hsplit'.isDocumented_iff, hsplit.isDocumented_iff]
  constructor
  · rintro ⟨l, hl, hstarts⟩
    exact ⟨l, (hhead l hl).resolve_right fun he ↦ hmark (he ▸ hstarts), hstarts⟩
  · rintro ⟨l, hl, hstarts⟩
    exact ⟨l, List.mem_head?_append_of_mem_head? hl, hstarts⟩

/-! ### What is found -/

/-- **What is found is read off the cut**: nothing if the documentation is there, and otherwise the
line at the cut, or the last one if none is left. -/
theorem findings_of_isSplit (hends : HeaderEnds (lines.map Text.trim) h)
    (hsplit : IsSplit ((lines.map Text.trim).drop h) between rest) :
    (IsDocumented ((lines.map Text.trim).drop h) → findings lines = []) ∧
      (¬ IsDocumented ((lines.map Text.trim).drop h) → findings lines =
        [.plain (max (min (h + between.length + 1) lines.length) 1) .documentation]) := by
  have hlength : h + (between.length + rest.length) = lines.length := by
    have hle := hends.le_length
    have hrest := congrArg List.length hsplit.append
    rw [List.length_drop, List.length_append] at hrest
    rw [List.length_map] at hle hrest
    omega
  have hdrop : (lines.map Text.trim).drop (h + between.length) = rest := by
    rw [← List.drop_drop, hsplit.append, List.drop_left]
  rw [hsplit.isDocumented_iff]
  unfold findings
  dsimp only
  rw [hends.headerLength, hsplit.takeWhile_eq, hdrop]
  cases rest with
  | nil =>
    rw [List.length_nil] at hlength
    have hlast : min (h + between.length + 1) lines.length = lines.length := by omega
    dsimp only
    rw [List.length_map, hlast]
    exact ⟨fun ⟨_, hline, _⟩ ↦ absurd hline nofun, fun _ ↦ rfl⟩
  | cons line rest =>
    rw [List.length_cons] at hlength
    have hthere : max (min (h + between.length + 1) lines.length) 1 = h + between.length + 1 := by
      omega
    have hmark : (∃ l ∈ (line :: rest).head?, mark <+: l) ↔ Text.startsWith line mark = true := by
      rw [Text.startsWith, List.isPrefixOf_iff_prefix]
      exact ⟨fun ⟨l, hl, h⟩ ↦ Option.some.inj hl ▸ h, fun h ↦ ⟨line, rfl, h⟩⟩
    rw [hmark, hthere]
    exact ⟨fun h ↦ if_pos h, fun hnot ↦ if_neg hnot⟩

/-- **A module passes** if it is documented. -/
theorem findings_eq_nil_iff (hends : HeaderEnds (lines.map Text.trim) h) :
    findings lines = [] ↔ IsDocumented ((lines.map Text.trim).drop h) := by
  obtain ⟨between, rest, hsplit⟩ := exists_isSplit ((lines.map Text.trim).drop h)
  have hfindings := findings_of_isSplit hends hsplit
  refine ⟨fun hnil ↦ by_contra fun hnot ↦ ?_, hfindings.1⟩
  exact absurd (hnil.symm.trans (hfindings.2 hnot)) nofun

/-- After a closed header, lines that may stand before the documentation make no difference. -/
theorem findings_append_eq_nil_iff {more : List Text} (hclosed : IsClosedHeader (header.map Text.trim))
    (hmore : ∀ line ∈ more, IsBetween (Text.trim line)) (after : List Text) :
    findings (header ++ (more ++ after)) = [] ↔ IsDocumented (after.map Text.trim) := by
  have htext : (header ++ (more ++ after)).map Text.trim =
      header.map Text.trim ++ (more ++ after).map Text.trim := List.map_append
  have hends : HeaderEnds ((header ++ (more ++ after)).map Text.trim) header.length :=
    List.length_map Text.trim ▸ .closed hclosed htext
  have hdrop : ((header ++ (more ++ after)).map Text.trim).drop header.length =
      more.map Text.trim ++ after.map Text.trim := by
    rw [← List.map_drop, List.drop_left, List.map_append]
  obtain ⟨between, rest, hsplit⟩ := exists_isSplit (after.map Text.trim)
  have hsplit' := hsplit.append_left (List.forall_mem_map.mpr hmore)
  rw [findings_eq_nil_iff hends, hdrop, hsplit'.isDocumented_iff, hsplit.isDocumented_iff]

/-- **The checker decides the grammar of documented modules.** There is one place where the header
ends. A module passes if it is documented after that; otherwise there is one finding, on the first
line after the header that is neither blank nor an import, or on the last line if there is none.
After a closed header, blank lines and imports that come or go make no difference. -/
theorem findings_iff_documented (lines : List Text) :
    (∃! h, HeaderEnds (lines.map Text.trim) h) ∧
      (∀ h, HeaderEnds (lines.map Text.trim) h →
        (findings lines = [] ↔ IsDocumented ((lines.map Text.trim).drop h)) ∧
        (¬ IsDocumented ((lines.map Text.trim).drop h) →
          ∃ between rest, IsSplit ((lines.map Text.trim).drop h) between rest ∧ findings lines =
            [.plain (max (min (h + between.length + 1) lines.length) 1) .documentation])) ∧
      ∀ header between between' rest, IsClosedHeader (header.map Text.trim) →
        (∀ line ∈ between ++ between', IsBetween (Text.trim line)) →
        (findings (header ++ between ++ rest) = [] ↔ findings (header ++ between' ++ rest) = []) := by
  refine ⟨?_, fun h hends ↦ ⟨findings_eq_nil_iff hends, fun hnot ↦ ?_⟩, ?_⟩
  · obtain ⟨h, hends⟩ := exists_headerEnds (lines.map Text.trim)
    exact ⟨h, hends, fun h' hends' ↦ hends'.headerLength.symm.trans hends.headerLength⟩
  · obtain ⟨between, rest, hsplit⟩ := exists_isSplit ((lines.map Text.trim).drop h)
    exact ⟨between, rest, hsplit, (findings_of_isSplit hends hsplit).2 hnot⟩
  · intro header between between' rest hclosed hbetween
    obtain ⟨hbefore, hafter⟩ := List.forall_mem_append.mp hbetween
    rw [List.append_assoc, List.append_assoc, findings_append_eq_nil_iff hclosed hbefore,
      findings_append_eq_nil_iff hclosed hafter]

/-- A header with a closing line. -/
def briefHeader : List Text := ["/-\r\n", "  A\n", " -/\n"]

/-- A module that comes to something else than its documentation. -/
def undocumentedModule : List Text :=
  briefHeader ++ ["\n", "import B\n", "def c := 1"].map String.toList

/-- The cut is at the last line here, and it is reported. With documentation, one blank line is as
good as two imports. -/
theorem findings_iff_documented_undocumentedModule :
    HeaderEnds (undocumentedModule.map Text.trim) 3 ∧
      ¬ IsDocumented ((undocumentedModule.map Text.trim).drop 3) ∧
      (∃ between rest, IsSplit ((undocumentedModule.map Text.trim).drop 3) between rest ∧
        findings undocumentedModule = [.plain (max (min (3 + between.length + 1) 6) 1) .documentation]) ∧
      IsClosedHeader (briefHeader.map Text.trim) ∧
      (∀ line ∈ ["\n", "import B\n", "import C\r\n"].map String.toList, IsBetween (Text.trim line)) ∧
      (findings (briefHeader ++ ["\n".toList] ++ ["/-! D -/".toList]) = [] ↔
        findings (briefHeader ++ ["import B\n", "import C\r\n"].map String.toList ++
          ["/-! D -/".toList]) = []) := by
  obtain ⟨-, hfound, hmoved⟩ := findings_iff_documented undocumentedModule
  have hclosed : IsClosedHeader (briefHeader.map Text.trim) :=
    ⟨["/-".toList, "A".toList], rfl, by decide, by decide⟩
  have htext : undocumentedModule.map Text.trim =
      briefHeader.map Text.trim ++ ["", "import B", "def c := 1"].map String.toList := by decide
  have hends : HeaderEnds (undocumentedModule.map Text.trim) 3 := .closed hclosed htext
  have hbetween : ∀ line ∈ ["\n", "import B\n", "import C\r\n"].map String.toList,
      IsBetween (Text.trim line) :=
    fun line hline ↦ isSkipped_iff.mp (by revert line; decide)
  have hnot : ¬ IsDocumented ((undocumentedModule.map Text.trim).drop 3) :=
    (hfound 3 hends).1.not.mp (by decide)
  exact ⟨hends, hnot, (hfound 3 hends).2 hnot, hclosed, hbetween, hmoved _ _ _ _ hclosed hbetween⟩

end StyleLinter.Check.Documentation
