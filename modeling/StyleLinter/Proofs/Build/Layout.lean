import StyleLinter.Proofs.Build.Declarations

/-!
# Laying out declarations

A build file made of declarations has one declaration on a line, between blank lines and lines that
are comments (`IsPart`). A declaration may be indented, its name may stand in guillemets, `where`
may follow it, and an attribute may come before the one of a library, also on the line before it
(`IsDeclared`).

Without comments a file that is laid out so is laid out so still, with blank lines where the
comments were (`exists_bare`), and the scans find what is declared on each line
(`librariesIn_beneath`, `packageIn?_beneath`). So **every declaration is loaded**, and nothing else
(`load_of_layout`).
-/

namespace StyleLinter.Build

namespace Declarations

open Text

/-! ### Layouts -/

/-- May a package or a library have this name? -/
structure IsName (name : Text) : Prop where
  ne_nil : name ≠ []
  chars : ∀ c ∈ name, isNameChar c = true
  /-- No comment begins in it. -/
  unbroken : ¬ "--".toList <:+: name

/-- What may stand before and after a name. -/
inductive AreQuotes : Text → Text → Prop
  | /-- Nothing. -/
    none : AreQuotes [] []
  | /-- Guillemets. -/
    guillemets : AreQuotes "«" "»"

/-- What may stand behind the name on its line. -/
inductive IsTail : Text → Prop
  | /-- Nothing but blanks. -/
    blank {b : Text} : IsInline b → IsTail b
  | /-- A word that opens the settings below. -/
    settings {b : Text} : IsInline b → IsTail (" where" ++ b)

/-- What may stand before the keyword of a library. -/
inductive IsAttribute : Text → Prop
  | /-- Nothing. -/
    none : IsAttribute []
  | /-- A word in brackets, on the same line or on one before it. -/
    word {w b : Text} : (∀ c ∈ w, isWord c = true) → (∀ c ∈ b, isBlank c = true) →
      IsAttribute ("@[" ++ w ++ "]" ++ b)

/-- What is declared. -/
inductive Declaration where
  /-- The package. -/
  | package (name : Text)
  /-- A library. -/
  | library (name : Text)

namespace Declaration

/-- The declared name. -/
def name : Declaration → Text
  | package name => name
  | library name => name

/-- The keyword of the declaration. -/
def keyword : Declaration → Text
  | package _ => "package"
  | library _ => "lean_lib"

/-- The package that is found first, if this is what is declared before the others. -/
def package? : Declaration → Option Text → Option Text
  | package name, _ => some name
  | library _, later => later

/-- The libraries that are found, if this is what is declared before the others. -/
def libraries : Declaration → List Text → List Text
  | package _, later => later
  | library name, later => name :: later

/-- May this stand before the keyword? -/
def Allows : Declaration → Text → Prop
  | package _, a => a = []
  | library _, a => IsAttribute a

end Declaration

/-- Is the text this declaration? -/
inductive IsDeclared (d : Declaration) : Text → Prop
  | mk {indent a gap opening closing tail : Text} : IsInline indent → d.Allows a →
      gap ≠ [] → IsInline gap → IsName d.name → AreQuotes opening closing → IsTail tail →
      IsDeclared d (indent ++ (a ++ (d.keyword ++ (gap ++ (opening ++ (d.name ++ (closing ++ tail)))))))

/-- Is the text a line without comments that declares this, if anything? -/
inductive IsBare : Option Declaration → Text → Prop
  | /-- A blank line. -/
    blank {b : Text} : IsInline b → IsBare none b
  | /-- The line of a declaration. -/
    declaration {d : Declaration} {t : Text} : IsDeclared d t → IsBare (some d) t

/-- Is the text a part of a build file that declares this, if anything? -/
inductive IsPart : Option Declaration → Text → Prop
  | /-- A line without comments. -/
    bare {d : Option Declaration} {t : Text} : IsBare d t → IsPart d t
  | /-- A line that is a comment. -/
    comment {b c : Text} : IsInline b → '\n' ∉ c → ¬ "/-".toList <:+: c →
      IsPart none (b ++ ("--" ++ c))
  | /-- Lines that are a comment. -/
    block {b c e : Text} : IsInline b → ¬ "-/".toList <:+: c → IsInline e →
      IsPart none (b ++ ("/-" ++ (c ++ ("-/" ++ e))))

variable {d : Declaration} {t u b gap opening closing name tail a rest : Text} {c : Char}

/-! ### Characters -/

theorem IsInline.append {e : Text} (hb : IsInline b) (he : IsInline e) : IsInline (b ++ e) :=
  List.forall_mem_append.mpr ⟨hb, he⟩

/-- A text that has no character of a mark of a comment. -/
def IsPlain (t : Text) : Prop := '/' ∉ t ∧ '-' ∉ t

instance (t : Text) : Decidable (IsPlain t) := inferInstanceAs (Decidable (_ ∧ _))

theorem IsPlain.append (ht : IsPlain t) (hu : IsPlain u) : IsPlain (t ++ u) :=
  ⟨List.not_mem_append ht.1 hu.1, List.not_mem_append ht.2 hu.2⟩

theorem IsPlain.of_forall {p : Char → Bool} (hslash : p '/' = false) (hdash : p '-' = false)
    (h : ∀ c ∈ t, p c = true) : IsPlain t :=
  ⟨fun hmem ↦ absurd ((h _ hmem).symm.trans hslash) nofun,
    fun hmem ↦ absurd ((h _ hmem).symm.trans hdash) nofun⟩

theorem IsPlain.of_blank (h : ∀ c ∈ t, isBlank c = true) : IsPlain t :=
  .of_forall (by decide) (by decide) h

theorem IsInline.plain (h : IsInline b) : IsPlain b := .of_blank h.blank

theorem Declaration.plain_keyword (d : Declaration) : IsPlain d.keyword := by
  cases d with
  | package => exact (by decide : IsPlain "package")
  | library => exact (by decide : IsPlain "lean_lib")

theorem AreQuotes.plain (h : AreQuotes opening closing) : IsPlain opening ∧ IsPlain closing := by
  cases h with
  | none => decide
  | guillemets => decide

theorem IsTail.plain (h : IsTail tail) : IsPlain tail := by
  cases h with
  | blank hb => exact hb.plain
  | settings hb => exact .append (by decide) hb.plain

theorem Declaration.Allows.plain (h : d.Allows a) : IsPlain a := by
  have hattribute : ∀ {a}, IsAttribute a → IsPlain a := by
    rintro _ (_ | ⟨hw, hb⟩)
    · decide
    · have hopening : IsPlain "@[" := by decide
      have hclosing : IsPlain "]" := by decide
      have hword := IsPlain.of_forall (by decide) (by decide) hw
      exact ((hopening.append hword).append hclosing).append (.of_blank hb)
  cases d with
  | package =>
    obtain rfl : a = [] := h
    decide
  | library => exact hattribute h

/-- **No comment begins in a declaration.** -/
theorem IsDeclared.not_infix (h : IsDeclared d t) : ¬ "/-".toList <:+: t ∧ ¬ "--".toList <:+: t := by
  obtain @⟨indent, a, gap, opening, closing, tail, hindent, ha, -, hgap, hname, hquotes, htail⟩ := h
  have hsplit : indent ++ (a ++ (d.keyword ++ (gap ++ (opening ++ (d.name ++ (closing ++ tail)))))) =
      indent ++ (a ++ (d.keyword ++ (gap ++ opening))) ++ (d.name ++ (closing ++ tail)) := by
    simp only [List.append_assoc]
  obtain ⟨hslash, hdash⟩ := hindent.plain.append <|
    ha.plain.append <| d.plain_keyword.append <| hgap.plain.append hquotes.plain.1
  obtain ⟨hslash', hdash'⟩ := hquotes.plain.2.append htail.plain
  have hname' : '/' ∉ d.name := fun hmem ↦ absurd (hname.chars _ hmem) (by decide)
  rw [hsplit]
  constructor
  · refine not_infix_of_not_mem (a := '/') fun hmem ↦ ?_
    rcases List.mem_append.mp hmem with hmem | hmem
    · exact hslash hmem
    · exact (List.mem_append.mp hmem).elim hname' hslash'
  · refine not_pair_infix_append (not_infix_of_not_mem hdash)
      (not_pair_infix_append hname.unbroken (not_infix_of_not_mem hdash') ?_) ?_
    · exact fun _ h ↦ hdash' (List.mem_of_head? h)
    · exact fun h ↦ absurd (List.mem_of_getLast? h) hdash

/-! ### Without comments -/

theorem IsInline.not_infix (h : IsInline b) : ¬ "/-".toList <:+: b ∧ ¬ "--".toList <:+: b :=
  ⟨not_infix_of_not_mem h.plain.1, not_infix_of_not_mem h.plain.2⟩

theorem IsBare.not_infix {d : Option Declaration} (h : IsBare d t) :
    ¬ "/-".toList <:+: t ∧ ¬ "--".toList <:+: t := by
  cases h with
  | blank hb => exact hb.not_infix
  | declaration hd => exact hd.not_infix

/-- **A part without its comments is a line without comments**, and declares the same. -/
theorem IsPart.exists_bare {d : Option Declaration} (h : IsPart d t) (hrest : EndsLine rest) :
    ∃ u, IsBare d (withoutEnds u) ∧ withoutBlocks (t ++ rest) = u ++ withoutBlocks rest := by
  cases h with
  | bare hbare =>
    obtain ⟨hopen, hdash⟩ := hbare.not_infix
    have hends : withoutEnds t = t := withoutEnds_of_not_infix hdash
    refine ⟨t, hends.symm ▸ hbare, ?_⟩
    exact withoutBlocks_append hopen fun _ ↦ hrest.head?_ne (by decide)
  | @comment b c hb hc hopen =>
    have hbare : withoutEnds (b ++ ("--" ++ c)) = b :=
      withoutEnds_comment hb.not_infix.2 (fun h ↦ hb.plain.2 (List.mem_of_getLast? h)) hb.newline hc
    -- The mark of the comment makes none of a block with what is around it.
    have hopen' : ¬ "/-".toList <:+: b ++ ("--" ++ c) := by
      refine not_pair_infix_append hb.not_infix.1 (not_pair_infix_append ?_ hopen ?_) ?_
      · decide
      · exact fun h ↦ absurd h (by decide)
      · exact fun h ↦ absurd (List.mem_of_getLast? h) hb.plain.1
    refine ⟨b ++ ("--" ++ c), hbare.symm ▸ .blank hb, ?_⟩
    exact withoutBlocks_append hopen' fun _ ↦ hrest.head?_ne (by decide)
  | @block b c e hb hc he =>
    -- The blanks around the block are what is left of its lines, on one line.
    have hline := hb.append he
    have hends : withoutEnds (b ++ e) = b ++ e := withoutEnds_of_not_infix hline.not_infix.2
    refine ⟨b ++ e, hends.symm ▸ .blank hline, ?_⟩
    have hsplit : b ++ ("/-" ++ (c ++ ("-/" ++ e))) ++ rest =
        b ++ '/' :: '-' :: (c ++ '-' :: '/' :: (e ++ rest)) := by
      simp only [List.append_assoc]
      rfl
    rw [hsplit, withoutBlocks_comment hb.not_infix.1 hc,
      withoutBlocks_append he.not_infix.1 fun _ ↦ hrest.head?_ne (by decide), List.append_assoc]

/-- **A layout without its comments is a layout of the same declarations.** -/
theorem exists_bare {ds : List (Option Declaration)} {ps : List Text} (h : List.Forall₂ IsPart ds ps) :
    ∃ ls, List.Forall₂ IsBare ds ls ∧ withoutEnds (withoutBlocks (beneath ps)) = beneath ls := by
  induction h with
  | nil => exact ⟨[], .nil, by rw [beneath_nil, withoutBlocks_of_none rfl]; rfl⟩
  | @cons d p ds ps hp _ ih =>
    obtain ⟨ls, hls, hrest⟩ := ih
    obtain ⟨u, hu, hblocks⟩ := hp.exists_bare (endsLine_beneath ps)
    refine ⟨withoutEnds u :: ls, .cons hu hls, ?_⟩
    rw [beneath_cons, withoutBlocks_newline, hblocks, withoutEnds_newline,
      withoutEnds_append (endsLine_withoutBlocks (endsLine_beneath ps)), hrest, beneath_cons]

/-! ### What is found -/

theorem not_isNameChar_guillemet : isNameChar '«' = false ∧ isNameChar '»' = false := by
  decide +kernel

theorem not_isNameChar_of_isBlank (h : isBlank c = true) : isNameChar c = false := by
  rw [Bool.eq_false_iff]
  exact fun hname ↦ absurd (h.symm.trans (not_isBlank_of_isNameChar hname)) nofun

/-- No name goes on in what stands behind one. -/
theorem head?_quotes_append (hquotes : AreQuotes opening closing) (htail : IsTail tail)
    (ht : EndsLine t) : ∀ c, (closing ++ (tail ++ t)).head? = some c → isNameChar c = false := by
  have hrest : ∀ c, (tail ++ t).head? = some c → isNameChar c = false := by
    intro c hc
    cases htail with
    | settings => exact Option.some.inj hc ▸ by decide
    | blank hb =>
      cases tail with
      | nil =>
        cases ht with
        | nil => exact absurd hc nofun
        | cons => exact Option.some.inj hc ▸ by decide
      | cons e tail =>
        exact Option.some.inj hc ▸ not_isNameChar_of_isBlank (hb.blank e List.mem_cons_self)
  cases hquotes with
  | none => exact hrest
  | guillemets => exact fun c hc ↦ Option.some.inj hc ▸ not_isNameChar_guillemet.2

/-- A name begins with a character of a name. -/
theorem IsName.exists_cons (h : IsName name) : ∃ c r, name = c :: r ∧ isNameChar c = true := by
  obtain ⟨c, r, rfl⟩ := List.exists_cons_of_ne_nil h.ne_nil
  exact ⟨c, r, rfl, h.chars c List.mem_cons_self⟩

/-- Blanks and a guillemet in front of a name are passed over. -/
theorem without_quotes (hblank : ∀ c ∈ gap, isBlank c = true) (hname : IsName name)
    (hquotes : AreQuotes opening closing) (t : Text) :
    without "«" (trimStart (gap ++ (opening ++ (name ++ t)))) = name ++ t := by
  rw [trimStart_append hblank]
  cases hquotes with
  | none =>
    obtain ⟨c, r, rfl, hchar⟩ := hname.exists_cons
    have hstart : trimStart ([] ++ (c :: r ++ t)) = c :: (r ++ t) :=
      trimStart_cons_of_not_blank (not_isBlank_of_isNameChar hchar)
    have hnone : after? "«" (c :: (r ++ t)) = none := by
      refine after?_eq_none_iff.mpr fun hprefix ↦ ?_
      obtain ⟨rfl, -⟩ := List.cons_prefix_cons.mp hprefix
      exact absurd (hchar.symm.trans not_isNameChar_guillemet.1) nofun
    rw [hstart, without, hnone]
    rfl
  | guillemets =>
    have hstart : trimStart ("«" ++ (name ++ t)) = "«" ++ (name ++ t) :=
      trimStart_cons_of_not_blank (by decide)
    rw [hstart, without, after?_eq_some_iff.mpr rfl]
    rfl

/-- **A name is read up to its end.** -/
theorem declared?_append (keyword : Text) (hgap : gap ≠ []) (hblank : ∀ c ∈ gap, isBlank c = true)
    (hname : IsName name) (hquotes : AreQuotes opening closing)
    (hrest : ∀ c, rest.head? = some c → isNameChar c = false) :
    declared? keyword (keyword ++ (gap ++ (opening ++ (name ++ rest)))) = some (name, rest) := by
  have hafter : after? keyword (keyword ++ (gap ++ (opening ++ (name ++ rest)))) =
      some (gap ++ (opening ++ (name ++ rest))) := after?_eq_some_iff.mpr rfl
  have hgap' : (gap ++ (opening ++ (name ++ rest))).head?.any isBlank = true := by
    obtain ⟨x, gap, rfl⟩ := List.exists_cons_of_ne_nil hgap
    exact hblank x List.mem_cons_self
  have hname' : (name ++ rest).head?.any isNameChar = true := by
    obtain ⟨c, r, rfl, hchar⟩ := hname.exists_cons
    exact hchar
  obtain ⟨htake, hdrop⟩ := takeWhile_append_of_stop hname.chars hrest
  unfold declared?
  simp only [hafter, without_quotes hblank hname hquotes]
  rw [hgap', hname', Bool.and_true, if_pos rfl, htake, hdrop]

/-- An attribute is passed over. -/
theorem afterAttribute_append (ha : IsAttribute a) (t : Text) :
    afterAttribute (trimStart (a ++ ("lean_lib" ++ t))) = "lean_lib" ++ t := by
  have hkeyword : trimStart ("lean_lib" ++ t) = "lean_lib" ++ t :=
    trimStart_cons_of_not_blank (by decide)
  cases ha with
  | none => rw [List.nil_append, hkeyword]; rfl
  | @word w b hw hb =>
    have hattribute : trimStart ("@[" ++ w ++ "]" ++ b ++ ("lean_lib" ++ t)) =
        "@[" ++ (w ++ ']' :: (b ++ ("lean_lib" ++ t))) := by
      rw [show "@[" ++ w ++ "]" ++ b ++ ("lean_lib" ++ t) =
        "@[" ++ (w ++ ']' :: (b ++ ("lean_lib" ++ t))) by simp only [List.append_assoc]; rfl]
      exact trimStart_cons_of_not_blank (by decide)
    have hclosing : ']' ∉ w := fun hmem ↦ absurd (hw _ hmem) (by decide)
    have hcut : cutAt? "]" (w ++ ']' :: (b ++ ("lean_lib" ++ t))) =
        some (w, b ++ ("lean_lib" ++ t)) := by
      show cutAt? [']'] (w ++ ']' :: ([] ++ (b ++ ("lean_lib".toList ++ t)))) = _
      rw [cutAt?_append_of_not_mem hclosing, cutAt?_piece, Option.map_some, List.append_nil]
    rw [hattribute, afterAttribute, after?_eq_some_iff.mpr rfl]
    simp only [hcut]
    rw [trimStart_append hb, hkeyword]

/-- What stands behind the name ends no line. -/
theorem newline_not_mem_quotes_append (hquotes : AreQuotes opening closing) (htail : IsTail tail) :
    '\n' ∉ closing ++ tail := by
  have hline : '\n' ∉ tail := by
    cases htail with
    | blank hb => exact hb.newline
    | settings hb => exact List.not_mem_append (by decide) hb.newline
  cases hquotes with
  | none => exact hline
  | guillemets => exact List.not_mem_append (by decide) hline

/-- A keyword and what it declares stand on one line. -/
theorem newline_not_mem {k : Text} (hkeyword : '\n' ∉ k) (hgap : IsInline gap)
    (hname : IsName name) (hquotes : AreQuotes opening closing) (htail : IsTail tail) :
    '\n' ∉ k ++ (gap ++ (opening ++ (name ++ (closing ++ tail)))) := by
  have hopening : '\n' ∉ opening := by cases hquotes <;> decide
  have hname' : '\n' ∉ name := fun hmem ↦ absurd (hname.chars _ hmem) (by decide)
  rw [List.mem_append, List.mem_append, List.mem_append, List.mem_append]
  simp only [not_or]
  exact ⟨hkeyword, hgap.newline, hopening, hname', newline_not_mem_quotes_append hquotes htail⟩

/-- **The package that is declared is found**, and no library is. -/
theorem IsDeclared.found_of_package (h : IsDeclared (.package name) t) (hrest : EndsLine rest) :
    packageIn? ('\n' :: (t ++ rest)) = some name ∧
      librariesIn ('\n' :: (t ++ rest)) = librariesIn rest := by
  obtain @⟨indent, a, gap, opening, closing, tail, hindent, ha, hne, hgap, hname, hquotes, htail⟩ := h
  obtain rfl : a = [] := ha
  have hdeclared := declared?_append "package" hne hgap.blank hname hquotes
    (head?_quotes_append hquotes htail hrest)
  have hline := newline_not_mem (k := "package") (by decide) hgap hname hquotes htail
  constructor
  · refine isScan_packageIn?.line_of_some (u := closing ++ tail) (t := rest) ?_
      (newline_not_mem_quotes_append hquotes htail)
    simp only [List.append_assoc]
    rw [isScan_packageIn?.blanks hindent.blank]
    exact hdeclared
  · refine isScan_librariesIn.line_of_none ?_ ?_
    · simp only [List.append_assoc]
      rw [isScan_librariesIn.blanks hindent.blank]
      rfl
    · exact List.not_mem_append hindent.newline hline

/-- No package is found in an attribute, also if it stands on a line of its own. -/
theorem packageIn?_attribute {indent x : Text} (hindent : IsInline indent) (ha : IsAttribute a)
    (hx : packageAt? x = none) : packageIn? ('\n' :: (indent ++ (a ++ x))) = packageIn? x := by
  cases ha with
  | none =>
    have hnone : packageAt? (indent ++ x) = none := (isScan_packageIn?.blanks hindent.blank x).trans hx
    exact isScan_packageIn?.line_of_none hnone hindent.newline
  | @word w b hw hb =>
    have hline : '\n' ∉ indent ++ ("@[" ++ (w ++ "]")) := by
      have hword : '\n' ∉ w := fun hmem ↦ absurd (hw _ hmem) (by decide)
      simp only [List.mem_append, not_or]
      exact ⟨hindent.newline, by decide, hword, by decide⟩
    have hnone : packageAt? (indent ++ ("@[" ++ (w ++ "]")) ++ (b ++ x)) = none := by
      rw [List.append_assoc, isScan_packageIn?.blanks hindent.blank]
      rfl
    have hsplit : indent ++ ("@[" ++ w ++ "]" ++ b ++ x) =
        indent ++ ("@[" ++ (w ++ "]")) ++ (b ++ x) := by
      simp only [List.append_assoc]
    rw [hsplit, isScan_packageIn?.line_of_none hnone hline, isScan_packageIn?.append_of_blank hb hx]

/-- **The library that is declared is found**, and no package is. -/
theorem IsDeclared.found_of_library (h : IsDeclared (.library name) t) (hrest : EndsLine rest) :
    packageIn? ('\n' :: (t ++ rest)) = packageIn? rest ∧
      librariesIn ('\n' :: (t ++ rest)) = name :: librariesIn rest := by
  obtain @⟨indent, a, gap, opening, closing, tail, hindent, ha, hne, hgap, hname, hquotes, htail⟩ := h
  have hdeclared := declared?_append "lean_lib" hne hgap.blank hname hquotes
    (head?_quotes_append hquotes htail hrest)
  have hline := newline_not_mem (k := "lean_lib") (by decide) hgap hname hquotes htail
  constructor
  · rw [List.append_assoc, List.append_assoc, packageIn?_attribute hindent ha rfl]
    exact isScan_packageIn?.append hline rest
  · refine isScan_librariesIn.line_of_some (u := closing ++ tail) ?_
      (newline_not_mem_quotes_append hquotes htail)
    simp only [List.append_assoc]
    rw [isScan_librariesIn.blanks hindent.blank, libraryAt?]
    exact (congrArg (declared? "lean_lib") (afterAttribute_append ha _)).trans hdeclared

/-- **A scan finds what is declared on each line**, if it does so on a line with the others behind
it. -/
theorem IsScan.beneath {α : Type} {declaration? : Text → Option (Text × Text)} {scan : Text → α}
    {add : Text → α → α} {found : Declaration → α → α} (hscan : IsScan declaration? scan add)
    (hfound : ∀ {d t rest}, IsDeclared d t → EndsLine rest →
      scan ('\n' :: (t ++ rest)) = found d (scan rest))
    {ds : List (Option Declaration)} {ls : List Text} (h : List.Forall₂ IsBare ds ls) :
    scan (beneath ls) = ds.reduceOption.foldr found (scan []) := by
  induction h with
  | nil => rfl
  | @cons d l ds ls hl _ ih =>
    have hrest := endsLine_beneath ls
    rw [beneath_cons]
    cases hl with
    | blank hb => rw [hscan.line_of_blank hb hrest, ih, List.reduceOption_cons_of_none]
    | declaration hd => rw [hfound hd hrest, ih, List.reduceOption_cons_of_some, List.foldr_cons]

theorem packageIn?_beneath {ds : List (Option Declaration)} {ls : List Text}
    (h : List.Forall₂ IsBare ds ls) :
    packageIn? (beneath ls) = ds.reduceOption.foldr Declaration.package? none := by
  refine isScan_packageIn?.beneath (fun {d} {_ _} hd hrest ↦ ?_) h
  cases d with
  | package => exact (hd.found_of_package hrest).1
  | library => exact (hd.found_of_library hrest).1

theorem librariesIn_beneath {ds : List (Option Declaration)} {ls : List Text}
    (h : List.Forall₂ IsBare ds ls) :
    librariesIn (beneath ls) = ds.reduceOption.foldr Declaration.libraries [] := by
  rw [← librariesIn_nil]
  refine isScan_librariesIn.beneath (fun {d} {_ _} hd hrest ↦ ?_) h
  cases d with
  | package => exact (hd.found_of_package hrest).2
  | library => exact (hd.found_of_library hrest).2

end Declarations

open Declarations

/-- **Every declaration is loaded**, and nothing else. Whatever a build file has between its
declarations, if each stands on a line of its own and every other line is blank or a comment, the
package that is loaded has the declared name and the declared libraries, in their order. -/
theorem load_of_layout {host : Host} {workspace : Path} {source name : Text} {before after : List Text}
    {ds : List (Option Declaration)} {ps : List Text} (hload : LoadsFrom host workspace source)
    (hsource : source = Text.joinWith "\n" ps) (hps : List.Forall₂ IsPart ds ps)
    (hds : ds.reduceOption = before.map .library ++ .package name :: after.map .library) :
    ∃ p, (load host workspace).outcome = .ok p ∧ p.name = name ∧ p.libraries = before ++ after := by
  have hne : ps ≠ [] := by
    rintro rfl
    cases hps
    exact absurd hds (by simp)
  obtain ⟨ls, hls, hbare⟩ := exists_bare hps
  have hcomments : withoutComments ('\n' :: source) = Text.beneath ls := by
    rw [hsource, Text.newline_cons_joinWith hne, withoutComments_eq, hbare]
  have hpackage : package? source = some name := by
    rw [package?_eq, hcomments, packageIn?_beneath hls, hds, List.foldr_append, List.foldr_map]
    exact List.foldr_fixed before
  have hlibraries : Declarations.libraries source = before ++ after := by
    rw [libraries_eq, hcomments, librariesIn_beneath hls, hds, List.foldr_append, List.foldr_cons,
      List.foldr_map, List.foldr_map]
    show before.foldr List.cons (after.foldr List.cons []) = _
    rw [List.foldr_cons_eq_append', List.foldr_cons_eq_append', List.append_nil]
  obtain ⟨q, hq⟩ := exists_ofParts_of_package? hpackage
  refine ⟨q, ?_, ?_⟩
  · rw [outcome_load hload, hpackage]
    exact mapError_eq_ok_iff.mpr hq
  · rw [hlibraries] at hq
    exact ofParts_eq_ok_iff.mp hq

/-! ### A layout -/

/-- A block, a line that is a comment, an attribute on a line of its own, and guillemets. -/
def laidOutText : Text :=
  "/- package x\nlean_lib Y -/\n-- lean_lib Z\n@[default_target]\nlean_lib A\n\n" ++
    "package «my-pkg» where\n  lean_lib B.C"

/-- **The libraries around the package are loaded**, and none from a comment. -/
theorem load_of_layout_mixed : LoadsFrom (declarationsHost laidOutText) Path.here laidOutText ∧
    ∃ p, (load (declarationsHost laidOutText) Path.here).outcome = .ok p ∧ p.name = "my-pkg".toList ∧
      p.libraries = ["A".toList, "B.C".toList] := by
  have hload : LoadsFrom (declarationsHost laidOutText) Path.here laidOutText := ⟨by cbv, by cbv⟩
  have hnone := isInline_nil
  have hgap : IsInline " " := List.forall_mem_singleton.mpr (by decide)
  have hindent : IsInline "  " := List.forall_mem_cons.mpr ⟨by decide, hgap⟩
  have hname {n : String} (hne : n.toList ≠ []) (hchars : n.toList.all isNameChar = true)
      (hdash : ¬ "--".toList <:+: n.toList) : IsName n := ⟨hne, List.all_eq_true.mp hchars, hdash⟩
  have hfirst : IsName "A" := hname (by decide) (by decide) (by decide)
  have hsecond : IsName "B.C" := hname (by decide) (by decide) (by decide)
  have hpackage : IsName "my-pkg" := hname (by decide) (by decide) (by decide)
  have hattribute : IsAttribute "@[default_target]\n" :=
    .word (w := "default_target".toList) (b := "\n".toList) (List.all_eq_true.mp (by decide))
      (List.forall_mem_singleton.mpr (by decide))
  have hblock : IsPart none "/- package x\nlean_lib Y -/" :=
    .block (c := " package x\nlean_lib Y ".toList) hnone (by decide) hnone
  have hcomment : IsPart none "-- lean_lib Z" :=
    .comment (c := " lean_lib Z".toList) hnone (by decide) (by decide)
  have hA : IsPart (some (.library "A")) "@[default_target]\nlean_lib A" :=
    .bare (.declaration (.mk (d := .library "A") hnone hattribute (by decide) hgap hfirst .none
      (.blank hnone)))
  have hmy : IsPart (some (.package "my-pkg")) "package «my-pkg» where" :=
    .bare (.declaration (.mk (d := .package "my-pkg") hnone rfl (by decide) hgap hpackage .guillemets
      (.settings hnone)))
  have hBC : IsPart (some (.library "B.C")) "  lean_lib B.C" :=
    .bare (.declaration (.mk (d := .library "B.C") hindent .none (by decide) hgap hsecond .none
      (.blank hnone)))
  have hparts : List.Forall₂ IsPart
      [none, none, some (.library "A"), none, some (.package "my-pkg"), some (.library "B.C")]
      ["/- package x\nlean_lib Y -/".toList, "-- lean_lib Z".toList,
        "@[default_target]\nlean_lib A".toList, [], "package «my-pkg» where".toList,
        "  lean_lib B.C".toList] :=
    .cons hblock (.cons hcomment (.cons hA (.cons (.bare (.blank hnone)) (.cons hmy (.cons hBC .nil)))))
  have hdeclared : [none, none, some (.library "A"), none, some (.package "my-pkg"),
      some (.library "B.C")].reduceOption = ["A".toList].map Declaration.library ++
        .package "my-pkg" :: ["B.C".toList].map Declaration.library := rfl
  exact ⟨hload, load_of_layout hload rfl hparts hdeclared⟩

end StyleLinter.Build
