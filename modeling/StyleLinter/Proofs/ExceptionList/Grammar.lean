import StyleLinter.Proofs.ExceptionList.RoundTrip

/-!
# The grammar of a line

What the line of an entry looks like, said without the reader. `Spells` cuts a line at its first
three colons and says what may stand between them; `Denotes` does this for the field of the line
number. **The reader accepts exactly what the grammar describes**, and reads the parts that the
grammar names (`parseLine_eq_ok_iff`).

The reader is more generous than the grammar in two places, and neither of them shows. It takes a
minus sign before the digits, but then no number is positive; and it lets a tag end with a line
feed, but then the field is not trimmed.
-/

namespace StyleLinter

namespace Text

/-- No script has a digit that is blank. -/
theorem not_isBlank_of_isDigit {c : Char} (h : isDigit c = true) : isBlank c = false := by
  have hapart : ∀ z ∈ zeros, ∀ r ∈ blankRanges, z + 9 < r.1 ∨ r.2 < z := by decide
  obtain ⟨d, hd⟩ := Option.isSome_iff_exists.mp h
  obtain ⟨z, hz, -⟩ := Option.map_eq_some_iff.mp hd
  have hrange := List.find?_some hz
  rw [Bool.and_eq_true, decide_eq_true_eq, decide_eq_true_eq] at hrange
  rw [isBlank, inRanges, List.any_eq_false]
  intro r hr
  have := hapart z (List.mem_of_find?_eq_some hz) r hr
  rw [Bool.and_eq_true, decide_eq_true_eq, decide_eq_true_eq]
  omega

theorem trimStart_of_isDigit {t : Text} (h : ∀ c ∈ t, isDigit c = true) : trimStart t = t :=
  trimStart_of_head? fun c hc ↦ not_isBlank_of_isDigit (h c (List.mem_of_head? hc))

end Text

namespace ExceptionList

/-! ### The fields -/

/-- A row of digits that is read as a number: there is one at least, and there are not too many. -/
structure IsNumeral (digits : Text) : Prop where
  ne_nil : digits ≠ []
  /-- The digits may be of any script. -/
  isDigit : ∀ c ∈ digits, Text.isDigit c = true
  /-- Leading zeros count. -/
  length_le : digits.length ≤ Text.digitLimit

/-- The field denotes the number. -/
inductive Denotes : Text → Nat → Prop
  /-- The digits alone. -/
  | bare {digits : Text} (h : IsNumeral digits) : Denotes digits (Text.valueOf digits)
  /-- The digits after the word `line` and some blanks. -/
  | worded {blanks digits : Text} (hne : blanks ≠ []) (hblank : ∀ c ∈ blanks, Text.isBlank c = true)
      (h : IsNumeral digits) : Denotes ("line" ++ blanks ++ digits) (Text.valueOf digits)

/-- An upper-case letter, and then upper-case letters, digits and underscores: nothing else. -/
def IsPlainTag (kind : Text) : Prop :=
  ∃ c t, kind = c :: t ∧ Kind.isInitial c = true ∧ ∀ d ∈ t, Kind.isInner d = true

/-- **The line is an entry with these parts**: a relative path, the number of a line, a tag and a
message, with colons between them and blanks around them. The message may have colons of its own. -/
def Spells (line path : Text) (n : Nat) (kind message : Text) : Prop :=
  ∃ a b c d, line = a ++ ':' :: (b ++ ':' :: (c ++ ':' :: d)) ∧ ':' ∉ a ∧ ':' ∉ b ∧ ':' ∉ c ∧
    (Text.trim a = path ∧ path ≠ [] ∧ path.head? ≠ some '/') ∧
    (Denotes (Text.trim b) n ∧ 0 < n) ∧
    (Text.trim c = kind ∧ IsPlainTag kind) ∧
    Text.trim d = message

/-- The line is an entry. -/
def IsEntry (line : Text) : Prop := ∃ path n kind message, Spells line path n kind message

/-! ### Numbers -/

/-- What comes before the digits of a number without a sign: the word and some blanks, or
nothing. -/
theorem field_of_numeral? {field digits : Text} (h : numeral? field = some (false, digits)) :
    (∀ c ∈ digits, Text.isDigit c = true) ∧
      (field = digits ∨ ∃ blanks, blanks ≠ [] ∧ (∀ c ∈ blanks, Text.isBlank c = true) ∧
        field = "line" ++ blanks ++ digits) := by
  unfold numeral? at h
  extract_lets number at h
  have hfield : field = number ∨ ∃ blanks, blanks ≠ [] ∧ (∀ c ∈ blanks, Text.isBlank c = true) ∧
      field = "line" ++ blanks ++ number := by
    unfold number
    split
    · next c r hafter =>
      split
      · next hc =>
        refine .inr ⟨(c :: r).takeWhile Text.isBlank, by simp [hc], fun d hd ↦
          List.mem_takeWhile_imp hd, ?_⟩
        rw [Text.after?_eq_some_iff.mp hafter, Text.trimStart, List.append_assoc,
          List.takeWhile_append_dropWhile]
      · exact .inl rfl
    · exact .inl rfl
  generalize number = n at h hfield
  split at h
  next hsign =>
    split at hsign
    · simp_all
    · obtain ⟨rfl, rfl⟩ := Prod.mk.inj hsign
      rw [Option.ite_none_right_eq_some] at h
      obtain ⟨hdigits, he⟩ := h
      obtain ⟨-, rfl⟩ := Prod.mk.inj (Option.some.inj he)
      rw [Bool.and_eq_true, List.all_eq_true] at hdigits
      exact ⟨hdigits.2, hfield⟩

/-- Digits alone are a number without a sign, and so are digits after the word and some blanks. -/
theorem numeral?_of_isDigit {digits : Text} (hne : digits ≠ [])
    (hall : ∀ c ∈ digits, Text.isDigit c = true) :
    numeral? digits = some (false, digits) ∧
      ∀ {blanks : Text}, blanks ≠ [] → (∀ c ∈ blanks, Text.isBlank c = true) →
        numeral? ("line" ++ blanks ++ digits) = some (false, digits) := by
  obtain ⟨d, t, rfl⟩ := List.exists_cons_of_ne_nil hne
  have hd : Text.isDigit d = true := hall d List.mem_cons_self
  have hminus : d ≠ '-' := by
    rintro rfl
    exact absurd hd (by decide)
  have hif : (!(d :: t).isEmpty && (d :: t).all Text.isDigit) = true := by
    rw [Bool.and_eq_true, List.all_eq_true]
    exact ⟨rfl, hall⟩
  constructor
  · have hafter : Text.after? "line" (d :: t) = none := by
      rw [← Option.not_isSome_iff_eq_none, Option.isSome_iff_exists]
      rintro ⟨r, hr⟩
      obtain rfl : d = 'l' := (List.cons.inj (Text.after?_eq_some_iff.mp hr)).1
      exact absurd hd (by decide)
    simp only [numeral?, hafter]
    split
    · next h => exact absurd (List.cons.inj h).1 hminus
    · rw [if_pos hif]
  · intro blanks hblanks hblank
    obtain ⟨b, bs, rfl⟩ := List.exists_cons_of_ne_nil hblanks
    have hafter : Text.after? "line" ("line" ++ b :: bs ++ d :: t) = some (b :: (bs ++ d :: t)) :=
      Text.after?_eq_some_iff.mpr (List.append_assoc ..)
    have htrim : Text.trimStart (b :: (bs ++ d :: t)) = d :: t := by
      rw [← List.cons_append, Text.trimStart_append hblank, Text.trimStart_of_isDigit hall]
    simp only [numeral?, hafter, hblank b List.mem_cons_self, htrim, if_true]
    split
    · next h => exact absurd (List.cons.inj h).1 hminus
    · rw [if_pos hif]

/-- With a minus sign no number is positive. -/
theorem not_valueOf_true {digits : Text} {n : Nat} (hn : 0 < n) :
    valueOf true digits ≠ .ok (n : Int) := by
  rw [valueOf]
  split
  · intro h
    cases h
  · intro h
    have := Except.ok.inj h
    simp only [if_true] at this
    omega

/-- **The number that a field denotes is what is read of it.** -/
theorem denotes_iff {field : Text} {n : Nat} : Denotes field n ↔
    ∃ digits, numeral? field = some (false, digits) ∧ valueOf false digits = .ok (n : Int) := by
  have hvalue : ∀ {digits : Text}, valueOf false digits = .ok (n : Int) ↔
      digits.length ≤ Text.digitLimit ∧ Text.valueOf digits = n := by
    intro digits
    rw [valueOf]
    split
    · next hlong =>
      refine iff_of_false (fun h ↦ ?_) fun h ↦ absurd h.1 (by omega)
      cases h
    · next hle =>
      exact ⟨fun h ↦ ⟨Nat.le_of_not_lt hle, Int.ofNat_inj.mp (Except.ok.inj h)⟩,
        fun h ↦ congrArg _ (Int.ofNat_inj.mpr h.2)⟩
  constructor
  · rintro (⟨hdigits⟩ | ⟨hne, hblank, hdigits⟩)
    · exact ⟨_, (numeral?_of_isDigit hdigits.ne_nil hdigits.isDigit).1,
        hvalue.mpr ⟨hdigits.length_le, rfl⟩⟩
    · exact ⟨_, (numeral?_of_isDigit hdigits.ne_nil hdigits.isDigit).2 hne hblank,
        hvalue.mpr ⟨hdigits.length_le, rfl⟩⟩
  · rintro ⟨digits, hnumeral, hn⟩
    obtain ⟨hle, rfl⟩ := hvalue.mp hn
    obtain ⟨hall, hfield⟩ := field_of_numeral? hnumeral
    have hdigits : IsNumeral digits := ⟨digits_of_numeral? hnumeral, hall, hle⟩
    rcases hfield with rfl | ⟨blanks, hne, hblank, rfl⟩
    · exact .bare hdigits
    · exact .worded hne hblank hdigits

/-! ### Tags -/

/-- **A trimmed text is a tag exactly if it is a plain one**, since it cannot end with a line
feed. -/
theorem isPlainTag_iff {kind : Text} (htrim : Text.trim kind = kind) :
    IsPlainTag kind ↔ Kind.isTag kind = true := by
  have hnewline (htag : Kind.isTag kind = true) : '\n' ∉ kind := fun h ↦
    have hlast := Text.not_blank_getLast?_of_trim_eq htrim (Kind.getLast?_of_mem_newline htag h)
    absurd hlast (by decide)
  calc IsPlainTag kind
      ↔ Kind.IsUpperWord kind := Kind.isUpperWord_iff.symm
    _ ↔ Kind.isTag kind = true ∧ '\n' ∉ kind := Kind.isUpperWord_iff_isTag
    _ ↔ Kind.isTag kind = true := and_iff_left_of_imp hnewline

/-! ### Lines -/

/-- **The reader accepts what the grammar describes**, and reads its parts. -/
theorem parseLine_eq_ok_iff {line : Text} {r : Record} : parseLine line = .ok r ↔
    Spells line r.key.path r.key.line r.key.kind r.message := by
  constructor
  · intro h
    unfold parseLine at h
    split at h
    · next path number kind message hfields =>
      split at h
      · exact absurd h nofun
      · next negative digits hnumeral =>
        split at h
        · exact absurd h nofun
        · next n hn =>
          obtain ⟨hpath, hline, hkind, hmessage⟩ :=
            ofParts_eq_ok_iff.mp (mapError_eq_ok_iff.mp h)
          obtain ⟨a, b, c, d, rfl, ha, hb, hc, rfl, rfl, rfl, rfl⟩ := fields_eq_iff.mp hfields
          subst hline
          have htag : IsPlainTag (Text.trim c) :=
            (isPlainTag_iff (Text.trim_trim c)).mpr (hkind ▸ r.key.kind_isTag)
          have hdenotes : Denotes (Text.trim b) r.key.line := by
            cases negative with
            | true => exact absurd hn (not_valueOf_true r.key.line_pos)
            | false => exact denotes_iff.mpr ⟨digits, hnumeral, hn⟩
          exact ⟨a, b, c, d, rfl, ha, hb, hc, ⟨hpath.symm, r.key.path_ne_nil, r.key.relative⟩,
            ⟨hdenotes, r.key.line_pos⟩, ⟨hkind.symm, hkind ▸ htag⟩, hmessage.symm⟩
    · exact absurd h nofun
  · rintro ⟨a, b, c, d, rfl, ha, hb, hc, ⟨hpath, -, -⟩, ⟨hdenotes, -⟩, ⟨hkind, -⟩, hmessage⟩
    obtain ⟨digits, hnumeral, hn⟩ := denotes_iff.mp hdenotes
    have hfields := fields_eq_iff.mpr ⟨a, b, c, d, rfl, ha, hb, hc, hpath, rfl, hkind, hmessage⟩
    have hparts := (ofParts_eq_ok_iff (r := r)).mpr ⟨rfl, rfl, rfl, rfl⟩
    rw [parseLine, hfields]
    simp only [hnumeral, hn]
    exact mapError_eq_ok_iff.mpr hparts

/-- What the grammar describes is read. -/
theorem exists_parseLine_of_spells {line path kind message : Text} {n : Nat}
    (h : Spells line path n kind message) : ∃ r, parseLine line = .ok r ∧
      r.key.path = path ∧ r.key.line = n ∧ r.key.kind = kind ∧ r.message = message := by
  obtain ⟨-, -, c, -, -, -, -, -, ⟨-, hne, hrelative⟩, ⟨-, hpos⟩, ⟨hkind, htag⟩, -⟩ := id h
  have htrim : Text.trim kind = kind := by rw [← hkind, Text.trim_trim]
  let r : Record := ⟨⟨path, n, kind, hne, hrelative, hpos, (isPlainTag_iff htrim).mp htag⟩, message⟩
  exact ⟨r, parseLine_eq_ok_iff.mpr h, rfl, rfl, rfl, rfl⟩

theorem isEntry_iff {line : Text} : IsEntry line ↔ ∃ r, parseLine line = .ok r := by
  constructor
  · rintro ⟨path, n, kind, message, h⟩
    obtain ⟨r, hr, -⟩ := exists_parseLine_of_spells h
    exact ⟨r, hr⟩
  · rintro ⟨r, hr⟩
    exact ⟨_, _, _, _, parseLine_eq_ok_iff.mp hr⟩

end ExceptionList

end StyleLinter
