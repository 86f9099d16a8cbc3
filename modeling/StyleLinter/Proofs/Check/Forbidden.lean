import StyleLinter.Proofs.Check.Positions

/-!
# Strings that no line of code may begin with

A string is forbidden as a word: **the code begins with it, and it ends there or a blank follows
it** (`LeadsWith`). Whether a line is reported is a question about the strings as a set, since it
takes one string among them that leads the code (`Offends`, `isSome_forbiddenOn?_iff`). Only which
of them the message names depends on their order (`IsNamed`, `forbiddenOn?_eq_some_iff`).

So the lines that are reported are those that offend, each once and in order
(`map_line_forbidden`). The same strings in another order report the same lines, and more strings
report no fewer (`map_line_forbidden_sublist`).
-/

namespace StyleLinter.Check

variable {words words' lines : List Text} {line code word : Text} {f : Finding} {n : Nat}

/-- The code on a line: what it says behind the blanks before it. -/
def codeOn (line : Text) : Text := Text.trimStart (Text.dropEnding line)

/-- Does the word lead the code? It is all of the code, or a blank follows it. -/
def LeadsWith (code word : Text) : Prop :=
  code = word ∨ ∃ c rest, Text.isBlank c = true ∧ code = word ++ c :: rest

/-- Is the line one of code that one of the words leads? -/
def Offends (words : List Text) (line : Text) : Prop :=
  ¬ commentMark <+: codeOn line ∧ ∃ word ∈ words, LeadsWith (codeOn line) word

/-- Is this the first one of the words that leads the code on the line? -/
def IsNamed (words : List Text) (line word : Text) : Prop :=
  ∃ before after, words = before ++ word :: after ∧ LeadsWith (codeOn line) word ∧
    ∀ earlier ∈ before, ¬ LeadsWith (codeOn line) earlier

/-! ### Words on a line -/

theorem beginsWithWord_iff (hword : word ≠ []) :
    beginsWithWord code word = true ↔ LeadsWith code word := by
  rw [beginsWithWord, Bool.and_eq_true, Bool.not_eq_true', List.isEmpty_eq_false_iff,
    and_iff_right hword]
  cases hafter : Text.after? word code with
  | none =>
    have hnot : ∀ rest, code ≠ word ++ rest := fun rest he ↦
      Option.some_ne_none rest ((Text.after?_eq_some_iff.mpr he).symm.trans hafter)
    refine iff_of_false Bool.false_ne_true ?_
    rintro (rfl | ⟨c, rest, -, he⟩)
    · exact hnot [] (List.append_nil _).symm
    · exact hnot _ he
  | some rest =>
    obtain rfl := Text.after?_eq_some_iff.mp hafter
    cases rest with
    | nil => exact iff_of_true rfl (.inl (List.append_nil _))
    | cons c rest =>
      refine ⟨fun hc ↦ .inr ⟨c, rest, hc, rfl⟩, ?_⟩
      rintro (he | ⟨d, rest', hd, he⟩)
      · exact absurd (List.append_right_eq_self.mp he) (List.cons_ne_nil _ _)
      · obtain ⟨rfl, -⟩ := List.cons.inj (List.append_cancel_left he)
        exact hd

/-- **The message names the first word** that leads the code. -/
theorem forbiddenOn?_eq_some_iff (hne : ∀ w ∈ words, w ≠ []) :
    forbiddenOn? words line = some word ↔
      ¬ commentMark <+: codeOn line ∧ IsNamed words line word := by
  have hmark : Text.startsWith (codeOn line) commentMark = true ↔ commentMark <+: codeOn line :=
    List.isPrefixOf_iff_prefix
  show (if Text.startsWith (codeOn line) commentMark then none
    else words.find? (beginsWithWord (codeOn line))) = some word ↔ _
  rw [Option.ite_none_left_eq_some, hmark, List.find?_eq_some_iff_append]
  refine and_congr_right fun _ ↦ ?_
  constructor
  · rintro ⟨hleads, before, after, rfl, hbefore⟩
    refine ⟨before, after, rfl, (beginsWithWord_iff (hne word (by simp))).mp hleads, ?_⟩
    intro w hw hlead
    have hfalse := hbefore w hw
    rw [(beginsWithWord_iff (hne w (List.mem_append_left _ hw))).mpr hlead] at hfalse
    exact Bool.false_ne_true hfalse
  · rintro ⟨before, after, rfl, hleads, hbefore⟩
    refine ⟨(beginsWithWord_iff (hne word (by simp))).mpr hleads, before, after, rfl, ?_⟩
    intro w hw
    rw [Bool.not_eq_true', Bool.eq_false_iff]
    exact mt (beginsWithWord_iff (hne w (List.mem_append_left _ hw))).mp (hbefore w hw)

/-- **A line is reported if it offends**, whatever the order of the words. -/
theorem isSome_forbiddenOn?_iff (hne : ∀ w ∈ words, w ≠ []) :
    (forbiddenOn? words line).isSome = true ↔ Offends words line := by
  have hleads : (words.find? (beginsWithWord (codeOn line))).isSome = true ↔
      ∃ word ∈ words, LeadsWith (codeOn line) word := by
    rw [List.find?_isSome]
    exact exists_congr fun w ↦ and_congr_right fun hw ↦ beginsWithWord_iff (hne w hw)
  show (if Text.startsWith (codeOn line) commentMark then none
    else words.find? (beginsWithWord (codeOn line))).isSome = true ↔ _
  rw [Offends, ← hleads, ← List.isPrefixOf_iff_prefix]
  cases hmark : Text.startsWith (codeOn line) commentMark with
  | true => exact iff_of_false Bool.false_ne_true fun h ↦ h.1 hmark
  | false => exact (and_iff_right fun h ↦ Bool.false_ne_true (hmark.symm.trans h)).symm

/-! ### Lines of a file -/

/-- Tests are made on each line with its number. -/
theorem eachLine_eq_flatMap (test : Nat → Text → List Finding) (n : Nat) (lines : List Text) :
    eachLine test n lines = (lines.zipIdx n).flatMap fun l ↦ test l.2 l.1 := by
  induction lines generalizing n with
  | nil => rfl
  | cons line lines ih => rw [eachLine, ih, List.zipIdx_cons, List.flatMap_cons]

/-- **A finding says which word is forbidden**, and where. -/
theorem mem_forbidden_iff : f ∈ forbidden words lines ↔ ∃ line word, (line, f.line) ∈ lines.zipIdx 1 ∧
    forbiddenOn? words line = some word ∧
    f = ⟨f.line, .forbidden, Rule.forbidden.message ++ ": " ++ word⟩ := by
  rw [forbidden, eachLine_eq_flatMap, List.mem_flatMap]
  constructor
  · rintro ⟨⟨line, m⟩, hl, hf⟩
    split at hf
    · next word hword =>
      obtain rfl := List.mem_singleton.mp hf
      exact ⟨line, word, hl, hword, rfl⟩
    · exact absurd hf List.not_mem_nil
  · rintro ⟨line, word, hl, hword, hf⟩
    refine ⟨_, hl, ?_⟩
    simp only [hword]
    exact List.mem_singleton.mpr hf

/-- **Each line that offends is reported once**, and no other line is. -/
theorem map_line_forbidden (words lines : List Text) : (forbidden words lines).map (·.line) =
    ((lines.zipIdx 1).filter fun l ↦ (forbiddenOn? words l.1).isSome).map (·.2) := by
  rw [forbidden, eachLine_eq_flatMap]
  induction lines.zipIdx 1 with
  | nil => rfl
  | cons l ls ih =>
    rw [List.flatMap_cons, List.map_append, ih, List.filter_cons]
    cases forbiddenOn? words l.1 <;> rfl

theorem mem_map_line_forbidden_iff (hne : ∀ w ∈ words, w ≠ []) :
    n ∈ (forbidden words lines).map (·.line) ↔
      ∃ line, (line, n) ∈ lines.zipIdx 1 ∧ Offends words line := by
  rw [map_line_forbidden, List.mem_map]
  constructor
  · rintro ⟨⟨line, m⟩, hl, rfl⟩
    obtain ⟨hl, hsome⟩ := List.mem_filter.mp hl
    exact ⟨line, hl, (isSome_forbiddenOn?_iff hne).mp hsome⟩
  · rintro ⟨line, hl, hoffends⟩
    exact ⟨_, List.mem_filter.mpr ⟨hl, (isSome_forbiddenOn?_iff hne).mpr hoffends⟩, rfl⟩

/-- Lines are reported in their order, each once. -/
theorem pairwise_line_forbidden (words lines : List Text) :
    ((forbidden words lines).map (·.line)).Pairwise (· < ·) := by
  rw [map_line_forbidden]
  refine List.Pairwise.sublist (List.filter_sublist.map Prod.snd) ?_
  rw [List.zipIdx_map_snd]
  exact List.pairwise_lt_range' 1

theorem Offends.mono (hsub : words ⊆ words') (h : Offends words line) : Offends words' line :=
  ⟨h.1, h.2.imp fun _ hword ↦ hword.imp_left fun hmem ↦ hsub hmem⟩

/-- **More words report no fewer lines.** -/
theorem map_line_forbidden_sublist (hne' : ∀ w ∈ words', w ≠ []) (hsub : words ⊆ words')
    (lines : List Text) :
    ((forbidden words lines).map (·.line)).Sublist ((forbidden words' lines).map (·.line)) := by
  have hne : ∀ w ∈ words, w ≠ [] := fun w hw ↦ hne' w (hsub hw)
  rw [map_line_forbidden, map_line_forbidden]
  refine (List.monotone_filter_right _ fun l hl ↦ ?_).map _
  exact (isSome_forbiddenOn?_iff hne').mpr (((isSome_forbiddenOn?_iff hne).mp hl).mono hsub)

/-- **Forbidden strings are leading words.** There is a checker for any such strings, if they are
some and none is empty. It makes one finding on each line that offends, in the order of the lines,
and none on another line; the message names the first string that leads the code. The strings in
another order report the same lines, and with further strings no line is lost. -/
theorem forbidden_reports_leading_words (hwords : words ≠ []) (hne : ∀ w ∈ words, w ≠ [])
    (config : Config) (lines : List Text) :
    Checker.ofForbidden words = .ok (.forbidden words) ∧
      (((Checker.forbidden words).findings config lines).map (·.line)).Pairwise (· < ·) ∧
      (∀ n, n ∈ ((Checker.forbidden words).findings config lines).map (·.line) ↔
        ∃ line, (line, n) ∈ lines.zipIdx 1 ∧ Offends words line) ∧
      (∀ f ∈ (Checker.forbidden words).findings config lines, ∃ line word,
        (line, f.line) ∈ lines.zipIdx 1 ∧ IsNamed words line word ∧
          f = ⟨f.line, .forbidden, "Forbidden string found: " ++ word⟩) ∧
      (∀ words', words.Perm words' → ((Checker.forbidden words').findings config lines).map (·.line) =
        ((Checker.forbidden words).findings config lines).map (·.line)) ∧
      ∀ words', words ⊆ words' → (∀ w ∈ words', w ≠ []) →
        (((Checker.forbidden words).findings config lines).map (·.line)).Sublist
          (((Checker.forbidden words').findings config lines).map (·.line)) := by
  refine ⟨if_neg hwords, pairwise_line_forbidden words lines,
    fun n ↦ mem_map_line_forbidden_iff hne, fun f hf ↦ ?_, fun words' hperm ↦ ?_,
    fun words' hsub hne' ↦ map_line_forbidden_sublist hne' hsub lines⟩
  · obtain ⟨line, word, hline, hword, hf⟩ := mem_forbidden_iff.mp hf
    exact ⟨line, word, hline, ((forbiddenOn?_eq_some_iff hne).mp hword).2, hf⟩
  · have hne' : ∀ w ∈ words', w ≠ [] := fun w hw ↦ hne w (hperm.mem_iff.mpr hw)
    exact (map_line_forbidden_sublist hne hperm.symm.subset lines).antisymm
      (map_line_forbidden_sublist hne' hperm.subset lines)

/-- Words one of which begins with another, and one that begins like a comment. -/
def commandWords : List Text := ["#eval x", "#eval", "--#"]

/-- Lines that begin with such words, and lines that only look so. -/
def commandLines : List Text := ["  #eval x\r\n", "#eval\n", "#evaluate\n", "--#\n", "\t#eval\tx"]

/-- **The longer word is named where it comes first.** In another order the same lines are reported,
and with one more word another line is. -/
theorem forbidden_reports_leading_words_commands :
    commandWords ≠ [] ∧ (∀ w ∈ commandWords, w ≠ []) ∧
      Checker.ofForbidden commandWords = .ok (.forbidden commandWords) ∧
      (Checker.forbidden commandWords).findings narrowConfig commandLines =
        [⟨1, .forbidden, "Forbidden string found: #eval x"⟩,
          ⟨2, .forbidden, "Forbidden string found: #eval"⟩,
          ⟨5, .forbidden, "Forbidden string found: #eval"⟩] ∧
      Offends commandWords "\t#eval\tx" ∧
      ((Checker.forbidden commandWords.reverse).findings narrowConfig commandLines).map (·.line) =
        [1, 2, 5] ∧
      [1, 2, 5].Sublist
        (((Checker.forbidden ("#evaluate" :: commandWords)).findings narrowConfig commandLines).map
          (·.line)) := by
  have hwords : commandWords ≠ [] := by decide
  have hne : ∀ w ∈ commandWords, w ≠ [] := by decide
  have hfindings : (Checker.forbidden commandWords).findings narrowConfig commandLines =
      [⟨1, .forbidden, "Forbidden string found: #eval x"⟩,
        ⟨2, .forbidden, "Forbidden string found: #eval"⟩,
        ⟨5, .forbidden, "Forbidden string found: #eval"⟩] := by decide
  obtain ⟨hchecker, -, hlines, -, hperm, hmore⟩ :=
    forbidden_reports_leading_words hwords hne narrowConfig commandLines
  refine ⟨hwords, hne, hchecker, hfindings, ?_, ?_, ?_⟩
  · -- the fifth line is the last one
    obtain ⟨line, hline, hoffends⟩ := (hlines 5).mp (by rw [hfindings]; decide)
    have hlast : line = "\t#eval\tx".toList := by simpa [commandLines] using hline
    exact hlast ▸ hoffends
  · rw [hperm _ (List.reverse_perm _).symm, hfindings]
    rfl
  · have hsub := hmore _ (List.subset_cons_self "#evaluate".toList _) (by decide)
    rwa [hfindings] at hsub

end StyleLinter.Check
