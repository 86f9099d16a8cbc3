import StyleLinter.Proofs.Build.Comments
import StyleLinter.Proofs.Configuration

/-!
# Declarations of a build file

The declarations are looked for at the start of each line and, since a declaration may go on to the
next line, on behind the one that was found. Both searches, for the package and for the libraries,
go through the text in the same way: a character inside a line is passed over, and at the start of a
line either nothing is declared, or something is and the search goes on behind its name (`IsScan`).
A line break in front of the text makes the start of the text that of a line like any other
(`librariesIn`, `packageIn?`), so that an induction over the lines has one case.

What is loaded is decided by the text alone (`outcome_load`).
-/

namespace StyleLinter.Build

namespace Declarations

open Text

variable {keyword t name rest a s : Text} {c : Char}

/-! ### Characters of a name -/

/-- No letter, digit or number of any script is a blank. -/
theorem disjoint_ranges : ∀ w ∈ wordRanges, ∀ b ∈ blankRanges, w.2 < b.1 ∨ b.2 < w.1 := by
  decide +kernel

theorem not_isBlank_of_isWord (h : isWord c = true) : isBlank c = false := by
  by_cases hlow : c.toNat < 0x80
  · have hall : ∀ n < 0x80, isWord (Char.ofNat n) = true → isBlank (Char.ofNat n) = false := by decide
    have := hall c.toNat hlow
    rw [Char.ofNat_toNat] at this
    exact this h
  · rw [isWord, if_neg hlow] at h
    rw [Bool.eq_false_iff]
    intro hblank
    obtain ⟨w, hw, hcw⟩ := List.any_eq_true.mp h
    obtain ⟨b, hb, hcb⟩ := List.any_eq_true.mp hblank
    rw [Bool.and_eq_true, decide_eq_true_eq, decide_eq_true_eq] at hcw hcb
    have := disjoint_ranges w hw b hb
    omega

theorem not_isBlank_of_isNameChar (h : isNameChar c = true) : isBlank c = false := by
  rw [isNameChar, Bool.or_eq_true, Bool.or_eq_true, beq_iff_eq, beq_iff_eq] at h
  rcases h with (h | rfl) | rfl
  · exact not_isBlank_of_isWord h
  · decide
  · decide

/-! ### One declaration -/

theorem without_suffix (piece t : Text) : without piece t <:+ t := by
  unfold without
  cases h : after? piece t with
  | none => exact List.suffix_rfl
  | some r => exact after?_eq_some_iff.mp h ▸ List.suffix_append piece r

theorem afterAttribute_suffix (t : Text) : afterAttribute t <:+ t := by
  unfold afterAttribute
  split
  · exact List.suffix_rfl
  · next r hr =>
    split
    · exact List.suffix_rfl
    · next front rest hcut =>
      rw [after?_eq_some_iff.mp hr, eq_of_cutAt? hcut]
      exact (trimStart_suffix rest).trans ((List.suffix_append _ rest).trans (List.suffix_append _ _))

/-- **A declaration ends with its name**, so not with a line. -/
theorem exists_of_declared? (h : declared? keyword t = some (name, rest)) :
    ∃ a c, t = a ++ c :: rest ∧ c ≠ '\n' := by
  have hne := ne_nil_of_declared? h
  unfold declared? at h
  split at h
  · exact absurd h nofun
  · next r hr =>
    rw [Option.ite_none_right_eq_some] at h
    obtain ⟨rfl, rfl⟩ := Prod.mk.inj (Option.some.inj h.2)
    obtain ⟨init, c, hname⟩ := (List.eq_nil_or_concat _).resolve_left hne
    rw [List.concat_eq_append] at hname
    have hc : isNameChar c = true := by
      have hmem : c ∈ (without "«" (trimStart r)).takeWhile isNameChar :=
        hname ▸ List.mem_concat_self
      exact List.mem_takeWhile_imp hmem
    have hsuffix : without "«" (trimStart r) <:+ t := by
      rw [after?_eq_some_iff.mp hr]
      exact ((without_suffix _ _).trans (trimStart_suffix r)).trans (List.suffix_append keyword r)
    obtain ⟨u, hu⟩ := hsuffix
    refine ⟨u ++ init, c, ?_, fun he ↦ absurd (he ▸ hc) (by decide)⟩
    rw [← hu, List.append_assoc, List.append_cons, ← hname, List.takeWhile_append_dropWhile]

theorem exists_of_suffix (hs : s <:+ t) (h : ∃ a c, s = a ++ c :: rest ∧ c ≠ '\n') :
    ∃ a c, t = a ++ c :: rest ∧ c ≠ '\n' := by
  obtain ⟨u, rfl⟩ := hs
  obtain ⟨a, c, rfl, hc⟩ := h
  exact ⟨u ++ a, c, (List.append_assoc ..).symm, hc⟩

theorem exists_of_packageAt? (h : packageAt? t = some (name, rest)) :
    ∃ a c, t = a ++ c :: rest ∧ c ≠ '\n' :=
  exists_of_suffix (trimStart_suffix t) (exists_of_declared? h)

theorem exists_of_libraryAt? (h : libraryAt? t = some (name, rest)) :
    ∃ a c, t = a ++ c :: rest ∧ c ≠ '\n' :=
  exists_of_suffix ((afterAttribute_suffix _).trans (trimStart_suffix t)) (exists_of_declared? h)

/-! ### Scans -/

/-- The libraries that are declared on the later lines. -/
def librariesIn (t : Text) : List Text := librariesAt (laterStarts t)

/-- The first package that is declared on the later lines. -/
def packageIn? (t : Text) : Option Text := ((laterStarts t).findSome? packageAt?).map (·.1)

/-- With a line break in front, the start of a text is that of a line. -/
theorem libraries_eq (t : Text) : libraries t = librariesIn (withoutComments ('\n' :: t)) := by
  rw [withoutComments_newline]
  rfl

theorem package?_eq (t : Text) : package? t = packageIn? (withoutComments ('\n' :: t)) := by
  rw [withoutComments_newline]
  rfl

/-- Blanks inside a line. -/
def IsInline (b : Text) : Prop := ∀ c ∈ b, isBlank c = true ∧ c ≠ '\n'

theorem isInline_nil : IsInline [] := List.forall_mem_nil _

theorem IsInline.blank (h : IsInline s) : ∀ c ∈ s, isBlank c = true := fun c hc ↦ (h c hc).1

theorem IsInline.newline (h : IsInline s) : '\n' ∉ s := fun hmem ↦ (h _ hmem).2 rfl

/-- **Does `scan` go through a text line by line?** At the start of a line it looks for a
declaration, which may come after blanks, and `add` says what the declared name and what is found
behind it make. -/
structure IsScan {α : Type} (declaration? : Text → Option (Text × Text)) (scan : Text → α)
    (add : Text → α → α) : Prop where
  nil : declaration? [] = none
  blank {c : Char} (t : Text) : isBlank c = true → declaration? (c :: t) = declaration? t
  /-- What is declared ends with its name, so not with a line. -/
  forward {t name rest : Text} : declaration? t = some (name, rest) →
    ∃ a c, t = a ++ c :: rest ∧ c ≠ '\n'
  skip {c : Char} (t : Text) : c ≠ '\n' → scan (c :: t) = scan t
  line (t : Text) : scan ('\n' :: t) =
    match declaration? t with
    | none => scan t
    | some (name, rest) => add name (scan rest)

theorem laterStarts_append (a t : Text) :
    laterStarts (a ++ t) = (laterStarts a).map (· ++ t) ++ laterStarts t := by
  induction a with
  | nil => rfl
  | cons c a ih =>
    rw [List.cons_append, laterStarts, laterStarts, ih]
    split <;> rfl

theorem exists_of_mem_laterStarts (h : s ∈ laterStarts t) : ∃ a, t = a ++ '\n' :: s := by
  induction t with
  | nil => exact absurd h List.not_mem_nil
  | cons c t ih =>
    rw [laterStarts] at h
    split at h
    · next hc =>
      subst hc
      rcases List.mem_cons.mp h with rfl | h
      · exact ⟨[], rfl⟩
      · obtain ⟨a, rfl⟩ := ih h
        exact ⟨'\n' :: a, rfl⟩
    · obtain ⟨a, rfl⟩ := ih h
      exact ⟨c :: a, rfl⟩

/-- **Behind a character that ends no line**, the starts are those that are left. -/
theorem dropWhile_laterStarts (a : Text) (hc : c ≠ '\n') (rest : Text) :
    (laterStarts (a ++ c :: rest)).dropWhile (rest.length < ·.length) = laterStarts rest := by
  have hearlier : ∀ s ∈ (laterStarts (a ++ [c])).map (· ++ rest),
      decide (rest.length < s.length) = true := by
    intro _ hmem
    obtain ⟨s, hs, rfl⟩ := List.mem_map.mp hmem
    have hne : s ≠ [] := by
      rintro rfl
      obtain ⟨u, hu⟩ := exists_of_mem_laterStarts hs
      exact hc (List.singleton_inj.mp (List.append_inj_right' hu rfl))
    have := List.length_pos_of_ne_nil hne
    rw [decide_eq_true_eq, List.length_append]
    omega
  have hlater : (laterStarts rest).dropWhile (rest.length < ·.length) = laterStarts rest := by
    cases hstarts : laterStarts rest with
    | nil => rfl
    | cons s later =>
      obtain ⟨u, hu⟩ := exists_of_mem_laterStarts (hstarts ▸ List.mem_cons_self)
      have hlength := congrArg List.length hu
      rw [List.length_append, List.length_cons] at hlength
      exact List.dropWhile_cons_of_neg (by rw [decide_eq_true_eq]; omega)
  rw [List.append_cons, laterStarts_append, List.dropWhile_append_of_pos hearlier, hlater]

theorem librariesIn_nil : librariesIn [] = [] := librariesAt.eq_1

theorem isScan_librariesIn : IsScan libraryAt? librariesIn List.cons where
  nil := rfl
  blank t hc := by rw [libraryAt?, trimStart_cons_of_blank hc, ← libraryAt?]
  skip t hc := by rw [librariesIn, laterStarts, if_neg hc, librariesIn]
  line t := by
    have hstarts : laterStarts ('\n' :: t) = t :: laterStarts t := rfl
    rw [librariesIn, hstarts, librariesAt]
    cases hdeclared : libraryAt? t with
    | none => rfl
    | some x =>
      obtain ⟨a, c, rfl, hc⟩ := exists_of_libraryAt? hdeclared
      exact congrArg (x.1 :: librariesAt ·) (dropWhile_laterStarts a hc x.2)
  forward := exists_of_libraryAt?

theorem isScan_packageIn? : IsScan packageAt? packageIn? fun name _ ↦ some name where
  nil := rfl
  blank t hc := by rw [packageAt?, trimStart_cons_of_blank hc, ← packageAt?]
  skip t hc := by rw [packageIn?, laterStarts, if_neg hc, packageIn?]
  line t := by
    have hstarts : laterStarts ('\n' :: t) = t :: laterStarts t := rfl
    rw [packageIn?, hstarts, List.findSome?_cons]
    cases packageAt? t <;> rfl
  forward := exists_of_packageAt?

namespace IsScan

variable {α : Type} {declaration? : Text → Option (Text × Text)} {scan : Text → α}
  {add : Text → α → α} {u b : Text}

/-- The rest of a line is passed over. -/
theorem append (h : IsScan declaration? scan add) (hu : '\n' ∉ u) (t : Text) :
    scan (u ++ t) = scan t := by
  induction u with
  | nil => rfl
  | cons c u ih =>
    rw [List.mem_cons, not_or] at hu
    rw [List.cons_append, h.skip _ (Ne.symm hu.1), ih hu.2]

theorem blanks (h : IsScan declaration? scan add) (hb : ∀ c ∈ b, isBlank c = true) (t : Text) :
    declaration? (b ++ t) = declaration? t := by
  induction b with
  | nil => rfl
  | cons c b ih =>
    rw [List.forall_mem_cons] at hb
    rw [List.cons_append, h.blank _ hb.1, ih hb.2]

/-- **A line that declares nothing is passed over.** -/
theorem line_of_none (h : IsScan declaration? scan add) (hnone : declaration? (u ++ t) = none)
    (hu : '\n' ∉ u) : scan ('\n' :: (u ++ t)) = scan t := by
  rw [h.line, hnone]
  exact h.append hu t

/-- **Blanks in front of what declares nothing** are passed over, and so are the ends of lines in
them. -/
theorem append_of_blank (h : IsScan declaration? scan add) (hb : ∀ c ∈ b, isBlank c = true)
    (hnone : declaration? t = none) : scan (b ++ t) = scan t := by
  induction b with
  | nil => rfl
  | cons c b ih =>
    rw [List.forall_mem_cons] at hb
    rw [List.cons_append]
    by_cases hc : c = '\n'
    · rw [hc, h.line, h.blanks hb.2, hnone]
      exact ih hb.2
    · rw [h.skip _ hc, ih hb.2]

/-- **A declaration is found.** -/
theorem line_of_some (h : IsScan declaration? scan add)
    (hsome : declaration? s = some (name, u ++ t)) (hu : '\n' ∉ u) :
    scan ('\n' :: s) = add name (scan t) := by
  rw [h.line, hsome]
  exact congrArg (add name) (h.append hu t)

/-- **A blank line is passed over**, and the start of the next one is found again. -/
theorem line_of_blank (h : IsScan declaration? scan add) (hb : IsInline b) (ht : EndsLine t) :
    scan ('\n' :: (b ++ t)) = scan t := by
  cases ht with
  | nil => exact h.line_of_none ((h.blanks hb.blank []).trans h.nil) hb.newline
  | cons t =>
    have hdeclaration : declaration? (b ++ '\n' :: t) = declaration? t :=
      (h.blanks hb.blank _).trans (h.blank t (by decide))
    rw [h.line, hdeclaration, h.append hb.newline, h.line]
    cases declaration? t <;> rfl

end IsScan

end Declarations

/-! ### What is loaded -/

/-- Is the package of a workspace loaded from this text, which is made of declarations? -/
structure LoadsFrom (host : Host) (workspace : Path) (source : Text) : Prop where
  /-- There is no build file in sections. -/
  sections : isFile host (workspace.child sectionsName) = .ok false
  /-- This is the text of the build file. -/
  text : host.readText (workspace.child declarationsName) = .ok source

variable {host : Host} {workspace : Path} {source : Text}

/-- **What is loaded is decided by the text.** -/
theorem outcome_load (h : LoadsFrom host workspace source) : (load host workspace).outcome =
    match Declarations.package? source with
    | none => .error (.load (workspace.child declarationsName) .noPackage)
    | some name => (Package.ofParts name (Declarations.libraries source)).mapError .invalid := by
  have hfile : isFile host (workspace.child declarationsName) = .ok true := by
    have htext := h.text
    unfold Host.readText at htext
    split at htext
    · exact absurd htext nofun
    · next hread => exact isFile_of_read hread
  have hread : readDeclarations host (workspace.child declarationsName) = .ok source := by
    rw [readDeclarations, h.text]
  show (Attempt.ofExcept (isFile host (workspace.child sectionsName)) >>= _).outcome = _
  rw [h.sections, Attempt.outcome_bind]
  show (Attempt.ofExcept (isFile host (workspace.child declarationsName)) >>= _).outcome = _
  rw [hfile, Attempt.outcome_bind]
  show (Attempt.ofExcept (readDeclarations host (workspace.child declarationsName)) >>= _).outcome = _
  rw [hread, Attempt.outcome_bind]
  show (match Declarations.package? source with
    | none => _ | some name => _ : Attempt Package).outcome = _
  cases Declarations.package? source <;> rfl

/-- A workspace with this build file made of declarations. -/
def declarationsHost (source : Text) : Host where
  disk :=
    { tree := Files.Tree.empty.put [declarationsName] (.file {} (Utf8.encode source))
      current := [] }
  git := none

end StyleLinter.Build
