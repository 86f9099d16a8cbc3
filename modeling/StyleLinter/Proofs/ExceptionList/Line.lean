import StyleLinter.ExceptionList
import StyleLinter.Proofs.Kind
import StyleLinter.Proofs.Sequence
import StyleLinter.Proofs.Text.Fields
import StyleLinter.Proofs.Text.Lines
import StyleLinter.Proofs.Text.Numeral

/-!
# A record and its line

A record is **listable** if a list can hold it as it stands: its path must not be taken for
something else (a colon would end the field, a number sign would make the line a comment), and
neither path nor message may lose blanks or break the line. Such a record is read back from its line
(`parseLine_toText`), and what is read from a line is always listable (`isListable_of_parseLine`).

The two places where writing and reading do not match up literally are the field of the line number,
where reading drops the word before the digits, and an empty message, whose line ends in a colon
once it is trimmed. `lineOf` gives both the same form.
-/

namespace StyleLinter

namespace ExceptionList

/-! ### What a list can hold -/

/-- A path that a list can hold as it stands. -/
structure IsListable (path : Text) : Prop where
  /-- A colon would end the field. -/
  no_colon : ':' ∉ path
  /-- A line break would end the record. -/
  no_break : ∀ c ∈ path, Text.isLineBreak c = false
  /-- Outer blanks would be trimmed off. -/
  trimmed : Text.trim path = path
  /-- A number sign would make the line a comment. -/
  no_comment : path.head? ≠ some '#'

instance (path : Text) : Decidable (IsListable path) :=
  decidable_of_iff (':' ∉ path ∧ path.all (!Text.isLineBreak ·) = true ∧ Text.trim path = path ∧
      path.head? ≠ some '#')
    ⟨fun h ↦ ⟨h.1, Text.not_isLineBreak_of_all h.2.1, h.2.2.1, h.2.2.2⟩,
      fun h ↦ ⟨h.no_colon, by simpa using h.no_break, h.trimmed, h.no_comment⟩⟩

/-- A message that a list can hold as it stands. -/
structure IsNote (message : Text) : Prop where
  /-- A line break would end the record. -/
  no_break : ∀ c ∈ message, Text.isLineBreak c = false
  /-- Outer blanks would be trimmed off. -/
  trimmed : Text.trim message = message

instance (message : Text) : Decidable (IsNote message) :=
  decidable_of_iff (message.all (!Text.isLineBreak ·) = true ∧ Text.trim message = message)
    ⟨fun h ↦ ⟨Text.not_isLineBreak_of_all h.1, h.2⟩, fun h ↦ ⟨by simpa using h.no_break, h.trimmed⟩⟩

end ExceptionList

/-- A record that a list can hold as it stands. -/
structure Record.IsListable (r : Record) : Prop where
  /-- The path is read as it is written. -/
  path : ExceptionList.IsListable r.key.path
  /-- The line feed that a tag may end with would end the record. -/
  kind : '\n' ∉ r.key.kind
  /-- The message is read as it is written. -/
  note : ExceptionList.IsNote r.message
  /-- The number of the line is not too long. -/
  writable : r.isWritable = true

namespace ExceptionList

/-! ### The parts of a line -/

/-- A number with the word `line` is read as the number. -/
theorem numeral?_line (n : Nat) : numeral? ("line " ++ Text.ofNat n) = some (false, Text.ofNat n) := by
  obtain ⟨d, t, hdt⟩ : ∃ d t, Text.ofNat n = d :: t := List.exists_cons_of_ne_nil (Text.ofNat_ne_nil n)
  have hd := Text.toNat_of_mem_ofNat (hdt ▸ List.mem_cons_self : d ∈ Text.ofNat n)
  have hafter : Text.after? "line" ("line " ++ Text.ofNat n) = some (' ' :: Text.ofNat n) := by
    rw [Text.after?_eq_some_iff]
    simp
  have hblank : Text.isBlank ' ' = true := by decide
  have htrim : Text.trimStart (' ' :: Text.ofNat n) = Text.ofNat n := by
    rw [Text.trimStart_cons_of_blank hblank, hdt, Text.trimStart_cons_of_not_blank
      (Text.not_isBlank_of_toNat (by omega) (by omega))]
  have hminus : d ≠ '-' := by
    rintro rfl
    exact absurd hd.1 (by decide)
  have hall : (Text.ofNat n).all Text.isDigit = true :=
    List.all_eq_true.mpr fun c hc ↦ Text.isDigit_of_mem_ofNat hc
  simp only [numeral?, hafter, hblank, htrim, if_true]
  rw [hdt] at hall ⊢
  split
  · next h => exact absurd (List.cons.inj h).1 hminus
  · simp [hall]

theorem valueOf_ofNat {n : Nat} (h : (Text.ofNat n).length ≤ Text.digitLimit) :
    valueOf false (Text.ofNat n) = .ok (n : Int) := by
  rw [valueOf, if_neg (by omega), Text.valueOf_ofNat]
  rfl

/-- The line of a record up to the third colon, and what follows it. -/
def lineOf (r : Record) (rest : Text) : Text :=
  r.key.path ++ ' ' :: ':' :: (" line " ++ Text.ofNat r.key.line ++ [' ']
    ++ ':' :: (' ' :: r.key.kind ++ [' '] ++ ':' :: rest))

theorem toText_eq_lineOf (r : Record) : r.toText = lineOf r (' ' :: r.message) := by
  simp [Record.toText, lineOf]

/-- Trimming a line trims what follows the third colon. -/
theorem trim_toText {r : Record} (hr : r.IsListable) :
    Text.trim r.toText = lineOf r (Text.trimEnd (' ' :: r.message)) := by
  have hcolon : Text.isBlank ':' = false := by decide
  have hhead : ∀ c, r.toText.head? = some c → Text.isBlank c = false := by
    intro c hc
    refine Text.not_blank_head?_of_trim_eq hr.path.trimmed ?_
    rw [← hc, toText_eq_lineOf, lineOf, List.head?_append_of_ne_nil _ r.key.path_ne_nil]
  rw [Text.trim_of_head? hhead, toText_eq_lineOf, lineOf, lineOf]
  have h := Text.trimEnd_append hcolon (' ' :: r.message)
    (s := r.key.path ++ ' ' :: ':' :: (" line " ++ Text.ofNat r.key.line ++ [' ']
      ++ ':' :: (' ' :: r.key.kind ++ [' '])))
  simpa using h

/-- The fields of the line of a record. -/
theorem fields_lineOf {r : Record} (hr : r.IsListable) (rest : Text) :
    fields (lineOf r rest) =
      [r.key.path, "line " ++ Text.ofNat r.key.line, r.key.kind, Text.trim rest] := by
  have hblank : Text.isBlank ' ' = true := by decide
  have hdigit : ∀ c ∈ Text.ofNat r.key.line, Text.isBlank c = false ∧ c ≠ ':' := by
    intro c hc
    obtain ⟨hlow, hhigh⟩ := Text.toNat_of_mem_ofNat hc
    refine ⟨Text.not_isBlank_of_toNat (by omega) (by omega), ?_⟩
    rintro rfl
    exact absurd hhigh (by decide)
  have hkind : ∀ c ∈ r.key.kind, Text.isBlank c = false ∧ c ≠ ':' := by
    intro c hc
    obtain ⟨hlow, hhigh, hne⟩ :=
      Kind.toNat_of_isInner (Kind.isInner_of_mem r.key.kind_isTag hr.kind hc)
    exact ⟨Text.not_isBlank_of_toNat (by omega) (by omega), hne⟩
  have hpath : ':' ∉ r.key.path ++ [' '] := by
    simp [hr.path.no_colon]
  have hnumber : ':' ∉ " line ".toList ++ Text.ofNat r.key.line ++ [' '] := by
    simpa using fun h ↦ (hdigit _ h).2 rfl
  have hname : ':' ∉ ' ' :: r.key.kind ++ [' '] := by
    simpa using fun h ↦ (hkind _ h).2 rfl
  have hcut : Text.piecesUpTo ':' 3 (lineOf r rest) =
      [r.key.path ++ [' '], " line " ++ Text.ofNat r.key.line ++ [' '],
        ' ' :: r.key.kind ++ [' '], rest] := by
    rw [lineOf, ← List.singleton_append (x := ' '), ← List.append_assoc,
      Text.piecesUpTo_append hpath, Text.piecesUpTo_append hnumber, Text.piecesUpTo_append hname,
      Text.piecesUpTo]
  have htrimNumber : Text.trim (" line " ++ Text.ofNat r.key.line ++ [' ']) =
      "line " ++ Text.ofNat r.key.line := by
    have hsplit : " line ".toList = ' ' :: "line ".toList := rfl
    rw [Text.trim_concat_blank hblank, hsplit, List.cons_append, Text.trim_blank_cons hblank]
    refine Text.trim_of_ends (fun c hc ↦ ?_) fun c hc ↦ ?_
    · obtain rfl : 'l' = c := Option.some.inj hc
      decide
    · rw [List.getLast?_append_of_ne_nil _ (Text.ofNat_ne_nil _)] at hc
      exact (hdigit c (List.mem_of_getLast? hc)).1
  have htrimKind : Text.trim (' ' :: r.key.kind ++ [' ']) = r.key.kind := by
    rw [Text.trim_concat_blank hblank, Text.trim_blank_cons hblank]
    exact Text.trim_of_ends (fun c hc ↦ (hkind c (List.mem_of_head? hc)).1)
      fun c hc ↦ (hkind c (List.mem_of_getLast? hc)).1
  rw [fields, hcut, List.map_cons, List.map_cons, List.map_cons, List.map_cons, List.map_nil,
    Text.trim_concat_blank hblank, hr.path.trimmed, htrimNumber, htrimKind]

/-- **A record is made of its parts**, and of no others. -/
theorem ofParts_eq_ok_iff {path kind message : Text} {n : Int} {r : Record} :
    Record.ofParts path n kind message = .ok r ↔
      r.key.path = path ∧ (r.key.line : Int) = n ∧ r.key.kind = kind ∧ r.message = message := by
  constructor
  · intro h
    obtain ⟨k, hk, rfl⟩ := map_eq_ok_iff.mp h
    unfold Key.ofParts at hk
    split at hk
    · exact absurd hk nofun
    split at hk
    · exact absurd hk nofun
    split at hk
    · exact absurd hk nofun
    next hpos =>
      split at hk
      · obtain rfl := Except.ok.inj hk
        exact ⟨rfl, Int.toNat_of_nonneg (by omega), rfl, rfl⟩
      · exact absurd hk nofun
  · rintro ⟨rfl, rfl, rfl, rfl⟩
    have hpos := r.key.line_pos
    rw [Record.ofParts, Key.ofParts, dif_neg r.key.path_ne_nil, dif_neg r.key.relative,
      dif_neg (by omega), dif_pos r.key.kind_isTag]
    rfl

/-- **A record is read back from its line**, which the reader has trimmed. -/
theorem parseLine_toText {r : Record} (hr : r.IsListable) :
    parseLine (Text.trim r.toText) = .ok r := by
  have hblank : Text.isBlank ' ' = true := by decide
  have hmessage : Text.trim (Text.trimEnd (' ' :: r.message)) = r.message := by
    rw [Text.trim_trimEnd, Text.trim_blank_cons hblank, hr.note.trimmed]
  have hparts := (ofParts_eq_ok_iff (r := r)).mpr ⟨rfl, rfl, rfl, rfl⟩
  have hwritable : (Text.ofNat r.key.line).length ≤ Text.digitLimit :=
    of_decide_eq_true hr.writable
  rw [trim_toText hr, parseLine, fields_lineOf hr, hmessage]
  simp only [numeral?_line, valueOf_ofNat hwritable, hparts]
  rfl

theorem isSkipped_cons_iff {c : Char} {t : Text} : isSkipped (c :: t) = true ↔ c = '#' := by
  show ('#' == c && true) = true ↔ c = '#'
  rw [Bool.and_true, beq_iff_eq]
  exact eq_comm

/-- The line of a record is not skipped. -/
theorem not_isSkipped_toText {r : Record} (hr : r.IsListable) :
    isSkipped (Text.trim r.toText) = false := by
  rw [trim_toText hr, lineOf]
  obtain ⟨c, t, hct⟩ := List.exists_cons_of_ne_nil r.key.path_ne_nil
  have hc : c ≠ '#' := by
    rintro rfl
    exact hr.path.no_comment (hct ▸ rfl)
  rw [hct, List.cons_append, Bool.eq_false_iff]
  exact mt isSkipped_cons_iff.mp hc

/-- What comes before the message of a record does not break, if path and kind do not. -/
theorem not_isLineBreak_heading {path kind : Text} (hpath : ∀ c ∈ path, Text.isLineBreak c = false)
    (hkind : ∀ c ∈ kind, Text.isLineBreak c = false) (n : Nat) :
    ∀ c ∈ path ++ " : line " ++ Text.ofNat n ++ " : " ++ kind, Text.isLineBreak c = false := by
  simp only [List.forall_mem_append]
  exact ⟨⟨⟨⟨hpath, Text.not_isLineBreak_of_all rfl⟩, Text.not_isLineBreak_ofNat n⟩,
    Text.not_isLineBreak_of_all rfl⟩, hkind⟩

/-- The text of a record does not break, if path and message do not and no line feed is in the
kind. -/
theorem not_isLineBreak_of_parts {r : Record}
    (hpath : ∀ c ∈ r.key.path, Text.isLineBreak c = false) (hkind : '\n' ∉ r.key.kind)
    (hmessage : ∀ c ∈ r.message, Text.isLineBreak c = false) :
    ∀ c ∈ r.toText, Text.isLineBreak c = false := by
  have htag : ∀ c ∈ r.key.kind, Text.isLineBreak c = false := fun c hc ↦
    Kind.not_isLineBreak_of_isInner (Kind.isInner_of_mem r.key.kind_isTag hkind hc)
  have hheading := not_isLineBreak_heading hpath htag r.key.line
  exact List.forall_mem_append.mpr
    ⟨List.forall_mem_append.mpr ⟨hheading, Text.not_isLineBreak_of_all rfl⟩, hmessage⟩

/-- The line of a record does not break. -/
theorem not_isLineBreak_toText {r : Record} (hr : r.IsListable) :
    ∀ c ∈ r.toText, Text.isLineBreak c = false :=
  not_isLineBreak_of_parts hr.path.no_break hr.kind hr.note.no_break

/-! ### What is read -/

theorem digits_of_numeral? {field digits : Text} {negative : Bool}
    (h : numeral? field = some (negative, digits)) : digits ≠ [] := by
  simp only [numeral?, Option.ite_none_right_eq_some] at h
  obtain ⟨hd, he⟩ := h
  obtain ⟨-, rfl⟩ := Prod.mk.inj (Option.some.inj he)
  rw [Bool.and_eq_true, Bool.not_eq_true', List.isEmpty_eq_false_iff] at hd
  exact hd.1

/-- What a numeral denotes can be written. -/
theorem length_ofNat_of_valueOf {negative : Bool} {digits : Text} {n : Int}
    (hne : digits ≠ []) (h : valueOf negative digits = .ok n) :
    (Text.ofNat n.toNat).length ≤ Text.digitLimit := by
  rw [valueOf] at h
  split at h
  · exact absurd h nofun
  · next hle =>
    have hlen := Text.length_ofNat_valueOf_le hne
    have hdigit : (Text.ofNat 0).length ≤ Text.digitLimit := by decide
    obtain rfl := Except.ok.inj h
    cases negative with
    | true => simpa using hdigit
    | false => simpa using (by omega : (Text.ofNat (Text.valueOf digits)).length ≤ Text.digitLimit)

/-- The fields of a line are what stands between its first three colons. -/
theorem fields_eq_iff {line path number kind message : Text} :
    fields line = [path, number, kind, message] ↔
      ∃ a b c d, line = a ++ ':' :: (b ++ ':' :: (c ++ ':' :: d)) ∧ ':' ∉ a ∧ ':' ∉ b ∧ ':' ∉ c ∧
        Text.trim a = path ∧ Text.trim b = number ∧ Text.trim c = kind ∧ Text.trim d = message := by
  constructor
  · intro h
    obtain ⟨a, l₁, hcut, ha, h₁⟩ := List.map_eq_cons_iff.mp h
    obtain ⟨b, l₂, rfl, hb, h₂⟩ := List.map_eq_cons_iff.mp h₁
    obtain ⟨c, l₃, rfl, hc, h₃⟩ := List.map_eq_cons_iff.mp h₂
    obtain ⟨d, l₄, rfl, hd, h₄⟩ := List.map_eq_cons_iff.mp h₃
    obtain rfl := List.map_eq_nil_iff.mp h₄
    obtain ⟨hline, hna, hnb, hnc⟩ := Text.eq_of_piecesUpTo_three hcut
    exact ⟨a, b, c, d, hline, hna, hnb, hnc, ha, hb, hc, hd⟩
  · rintro ⟨a, b, c, d, rfl, hna, hnb, hnc, rfl, rfl, rfl, rfl⟩
    rw [fields, Text.piecesUpTo_append hna, Text.piecesUpTo_append hnb, Text.piecesUpTo_append hnc,
      Text.piecesUpTo]
    rfl

/-- The first field of a line that is not skipped does not look like a comment. -/
theorem head?_trim_of_not_isSkipped {a rest : Text}
    (htrim : Text.trim (a ++ ':' :: rest) = a ++ ':' :: rest)
    (hskip : isSkipped (a ++ ':' :: rest) = false) : (Text.trim a).head? ≠ some '#' := by
  intro hhead
  have hfront : ∀ e, a.head? = some e → Text.isBlank e = false := fun e he ↦
    Text.not_blank_head?_of_trim_eq htrim (by rw [List.head?_append, he]; rfl)
  rw [Text.head?_trim hfront] at hhead
  obtain ⟨a', rfl⟩ := List.head?_eq_some_iff.mp hhead
  rw [List.cons_append, Bool.eq_false_iff] at hskip
  exact hskip (isSkipped_cons_iff.mpr rfl)

/-- **What is read from a line is listable.** The line is trimmed and not skipped. -/
theorem isListable_of_parseLine {line : Text} {r : Record}
    (hbreak : ∀ c ∈ line, Text.isLineBreak c = false) (htrim : Text.trim line = line)
    (hskip : isSkipped line = false) (h : parseLine line = .ok r) : r.IsListable := by
  unfold parseLine at h
  split at h
  · next path number kind message hfields =>
    split at h
    · cases h
    · next negative digits hnumeral =>
      split at h
      · cases h
      · next n hn =>
        obtain ⟨hpath, rfl, hkind, hmessage⟩ := ofParts_eq_ok_iff.mp (mapError_eq_ok_iff.mp h)
        obtain ⟨a, b, c, d, rfl, hcolon, -, -, ha, -, hc, hd⟩ := fields_eq_iff.mp hfields
        -- a field that is kept is a trimmed part of the line
        have hsub : ∀ {x : Text}, x ∈ [a, c, d] → ∀ e ∈ Text.trim x, Text.isLineBreak e = false := by
          intro x hx e he
          refine hbreak e ?_
          have he := Text.mem_of_mem_trim he
          simp only [List.mem_cons, List.not_mem_nil, or_false] at hx
          rcases hx with rfl | rfl | rfl <;> simp [he]
        refine ⟨⟨?_, ?_, ?_, ?_⟩, ?_, ⟨?_, ?_⟩, ?_⟩
        · rw [hpath, ← ha]
          exact mt Text.mem_of_mem_trim hcolon
        · rw [hpath, ← ha]
          exact hsub (by simp)
        · rw [hpath, ← ha, Text.trim_trim]
        · -- the line begins as its first field does
          rw [hpath, ← ha]
          exact head?_trim_of_not_isSkipped htrim hskip
        · intro hmem
          rw [hkind, ← hc] at hmem
          exact absurd (hsub (by simp) _ hmem) (by decide)
        · rw [hmessage, ← hd]
          exact hsub (by simp)
        · rw [hmessage, ← hd, Text.trim_trim]
        · exact decide_eq_true (length_ofNat_of_valueOf (digits_of_numeral? hnumeral) hn)
  · cases h

end ExceptionList

end StyleLinter
