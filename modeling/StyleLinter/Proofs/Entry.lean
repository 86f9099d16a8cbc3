import StyleLinter.Proofs.ExceptionList.Line
import StyleLinter.Proofs.Kind
import StyleLinter.Proofs.Path

/-!
# Which entries can be made

The parts of an entry are well formed if they are a relative path, the number of a line counted from
one, and an upper-case word as the kind (`Key.IsWellFormed`); a violation has to say something
besides. **Well-formed parts make an entry, and so do parts that are well formed but for a line feed
behind the kind**, and no others (`entries_made_iff`).

The line feed shows in the text of the entry. Where path and message do not break, the text is one
line if the parts are well formed; otherwise it is two, and the break is behind the kind
(`Record.lines_toText_of_newline`).
-/

namespace StyleLinter

variable {path kind tag message : Text} {n : Int}

/-! ### Well-formed parts -/

/-- A text spells an absolute path exactly if it begins with a slash. -/
theorem Path.isAbsolute_ofText_eq_false_iff {t : Text} :
    (ofText t).isAbsolute = false ↔ t.head? ≠ some '/' := by
  rw [isAbsolute, bne_eq_false_iff_eq]
  constructor
  · intro h hhead
    obtain ⟨r, rfl⟩ := List.head?_eq_some_iff.mp hhead
    exact slashes_ofText_cons_ne_zero r h
  · exact fun h ↦ (isRelative_ofText h).slashes

/-- **The parts of a well-formed key.** -/
structure Key.IsWellFormed (path : Text) (n : Int) (kind : Text) : Prop where
  path_ne_nil : path ≠ []
  /-- The path does not begin at the root. -/
  relative : (Path.ofText path).isAbsolute = false
  /-- Lines are counted from one. -/
  one_le : 1 ≤ n
  /-- The kind is a word, and nothing is behind it. -/
  isUpperWord : Kind.IsUpperWord kind

instance (path : Text) (n : Int) (kind : Text) : Decidable (Key.IsWellFormed path n kind) :=
  decidable_of_iff (path ≠ [] ∧ (Path.ofText path).isAbsolute = false ∧ 1 ≤ n ∧
      Kind.IsUpperWord kind)
    ⟨fun h ↦ ⟨h.1, h.2.1, h.2.2.1, h.2.2.2⟩,
      fun h ↦ ⟨h.path_ne_nil, h.relative, h.one_le, h.isUpperWord⟩⟩

/-- Parts are well formed, but perhaps for a line feed behind the kind, if they pass the checks. -/
theorem Key.exists_isWellFormed_iff :
    (∃ tag, IsWellFormed path n tag ∧ (kind = tag ∨ kind = tag ++ ['\n'])) ↔
      path ≠ [] ∧ path.head? ≠ some '/' ∧ 1 ≤ n ∧ Kind.isTag kind = true := by
  rw [Kind.isTag_iff, ← Path.isAbsolute_ofText_eq_false_iff]
  constructor
  · rintro ⟨tag, ⟨hpath, hrelative, hn, hword⟩, hkind⟩
    exact ⟨hpath, hrelative, hn, tag, hword, hkind⟩
  · rintro ⟨hpath, hrelative, hn, tag, hword, hkind⟩
    exact ⟨tag, ⟨hpath, hrelative, hn, hword⟩, hkind⟩

/-! ### Making entries -/

/-- **A record is made of parts that pass the checks.** -/
theorem Record.exists_ofParts_iff : (∃ r, Record.ofParts path n kind message = .ok r) ↔
    path ≠ [] ∧ path.head? ≠ some '/' ∧ 1 ≤ n ∧ Kind.isTag kind = true := by
  constructor
  · rintro ⟨r, hr⟩
    obtain ⟨rfl, rfl, rfl, rfl⟩ := ExceptionList.ofParts_eq_ok_iff.mp hr
    exact ⟨r.key.path_ne_nil, r.key.relative, Int.ofNat_le.mpr r.key.line_pos, r.key.kind_isTag⟩
  · rintro ⟨hpath, hrelative, hn, htag⟩
    let key : Key := ⟨path, n.toNat, kind, hpath, hrelative, by omega, htag⟩
    have hline : (key.line : Int) = n := Int.toNat_of_nonneg (by omega)
    exact ⟨⟨key, message⟩, ExceptionList.ofParts_eq_ok_iff.mpr ⟨rfl, hline, rfl, rfl⟩⟩

/-- A violation is made of parts if the record is, whose message is not empty then. -/
theorem Violation.ofParts_eq_ok_iff {v : Violation} :
    Violation.ofParts path n kind message = .ok v ↔
      Record.ofParts path n kind message = .ok v.toRecord := by
  obtain ⟨r, hmessage⟩ := v
  rw [Violation.ofParts, Record.ofParts]
  cases Key.ofParts path n kind with
  | error i => simp [Except.map]
  | ok key =>
    dsimp only
    constructor
    · intro h
      by_cases hempty : message = []
      · rw [dif_pos hempty] at h
        cases h
      · rw [dif_neg hempty] at h
        exact congrArg _ (congrArg toRecord (Except.ok.inj h))
    · intro h
      obtain rfl : ⟨key, message⟩ = r := Except.ok.inj h
      exact dif_neg hmessage

/-- **A violation is made of the parts of a record and something to say.** -/
theorem Violation.exists_ofParts_iff : (∃ v, Violation.ofParts path n kind message = .ok v) ↔
    (∃ r, Record.ofParts path n kind message = .ok r) ∧ message ≠ [] := by
  constructor
  · rintro ⟨v, hv⟩
    have hr := ofParts_eq_ok_iff.mp hv
    obtain ⟨-, -, -, rfl⟩ := ExceptionList.ofParts_eq_ok_iff.mp hr
    exact ⟨⟨v.toRecord, hr⟩, v.message_ne_nil⟩
  · rintro ⟨⟨r, hr⟩, hmessage⟩
    obtain ⟨-, -, -, rfl⟩ := ExceptionList.ofParts_eq_ok_iff.mp hr
    exact ⟨⟨r, hmessage⟩, ofParts_eq_ok_iff.mpr hr⟩

/-! ### The text of an entry -/

namespace Record

variable {r : Record}

theorem toText_ne_nil (r : Record) : r.toText ≠ [] := by
  simp [toText]

/-- **Without a line feed in the kind the text of a record is one line**, if path and message do not
break. -/
theorem lines_toText (hpath : ∀ c ∈ r.key.path, Text.isLineBreak c = false)
    (hmessage : ∀ c ∈ r.message, Text.isLineBreak c = false) (hkind : '\n' ∉ r.key.kind) :
    Text.lines r.toText = [r.toText] :=
  Text.lines_of_not_isLineBreak r.toText_ne_nil
    (ExceptionList.not_isLineBreak_of_parts hpath hkind hmessage)

/-- **A line feed behind the kind breaks the text of a record in two.** -/
theorem lines_toText_of_newline (hpath : ∀ c ∈ r.key.path, Text.isLineBreak c = false)
    (hmessage : ∀ c ∈ r.message, Text.isLineBreak c = false) (hkind : r.key.kind = tag ++ ['\n']) :
    Text.lines r.toText =
      [r.key.path ++ " : line " ++ Text.ofNat r.key.line ++ " : " ++ tag, " : " ++ r.message] := by
  have hword : Kind.IsUpperWord tag := Kind.isUpperWord_of_isTag_concat (hkind ▸ r.key.kind_isTag)
  have hheading := ExceptionList.not_isLineBreak_heading hpath
    (fun c hc ↦ Kind.not_isLineBreak_of_isInner (hword.isInner c hc)) r.key.line
  have hrest : Text.lines (" : " ++ r.message) = [" : " ++ r.message] :=
    Text.lines_of_not_isLineBreak (List.append_ne_nil_of_left_ne_nil (by decide) _)
      (List.forall_mem_append.mpr ⟨Text.not_isLineBreak_of_all rfl, hmessage⟩)
  have htext : r.toText = (r.key.path ++ " : line " ++ Text.ofNat r.key.line ++ " : " ++ tag) ++
      '\n' :: (" : " ++ r.message) := by
    simp [toText, hkind]
  rw [htext, Text.lines_append_newline hheading, hrest]

end Record

/-- **Which entries can be made, and how many lines they take.** A record is made of parts exactly
if they are well formed, or would be without a line feed behind the kind; a violation exactly if a
record is and the message is not empty, and it is this record. If neither path nor message breaks,
the text of the entry is one line exactly if the parts are well formed; with the line feed behind
the kind it is two. -/
theorem entries_made_iff (path : Text) (n : Int) (kind message : Text) :
    ((∃ r, Record.ofParts path n kind message = .ok r) ↔
      ∃ tag, Key.IsWellFormed path n tag ∧ (kind = tag ∨ kind = tag ++ ['\n'])) ∧
    ((∃ v, Violation.ofParts path n kind message = .ok v) ↔
      (∃ r, Record.ofParts path n kind message = .ok r) ∧ message ≠ []) ∧
    (∀ v, Violation.ofParts path n kind message = .ok v →
      Record.ofParts path n kind message = .ok v.toRecord) ∧
    ∀ r, Record.ofParts path n kind message = .ok r →
      (∀ c ∈ path, Text.isLineBreak c = false) → (∀ c ∈ message, Text.isLineBreak c = false) →
        (Text.lines r.toText = [r.toText] ↔ Key.IsWellFormed path n kind) ∧
        ∀ tag, kind = tag ++ ['\n'] → Text.lines r.toText =
          [path ++ " : line " ++ Text.ofNat n.toNat ++ " : " ++ tag, " : " ++ message] := by
  have hmade : (∃ r, Record.ofParts path n kind message = .ok r) ↔
      ∃ tag, Key.IsWellFormed path n tag ∧ (kind = tag ∨ kind = tag ++ ['\n']) :=
    Record.exists_ofParts_iff.trans Key.exists_isWellFormed_iff.symm
  refine ⟨hmade, Violation.exists_ofParts_iff, fun v ↦ Violation.ofParts_eq_ok_iff.mp, ?_⟩
  intro r hr hpath hmessage
  obtain ⟨word, hword, hkind⟩ := hmade.mp ⟨r, hr⟩
  obtain ⟨rfl, rfl, rfl, rfl⟩ := ExceptionList.ofParts_eq_ok_iff.mp hr
  refine ⟨⟨fun hone ↦ ?_, fun hwell ↦ ?_⟩, fun tag htag ↦ ?_⟩
  · rcases hkind with hkind | hkind
    · exact hkind ▸ hword
    · have htwo := Record.lines_toText_of_newline hpath hmessage hkind
      exact absurd (congrArg List.length (hone.symm.trans htwo)) (by simp)
  · exact Record.lines_toText hpath hmessage hwell.isUpperWord.newline_not_mem
  · exact Record.lines_toText_of_newline hpath hmessage htag

/-- **A tag with a line feed behind it makes a violation**, whose parts are not well formed and
whose text has two lines. -/
theorem entries_made_iff_brokenTag :
    ∃ v, Violation.ofParts "A/X.lean" 1 "ERR_COP\n" "m" = .ok v ∧
      ¬ Key.IsWellFormed "A/X.lean" 1 "ERR_COP\n" ∧
      Text.lines v.toText = ["A/X.lean : line 1 : ERR_COP", " : m"] := by
  obtain ⟨hmade, hviolation, hrecord, htext⟩ := entries_made_iff "A/X.lean" 1 "ERR_COP\n" "m"
  have hwell : Key.IsWellFormed "A/X.lean" 1 "ERR_COP" := by decide
  obtain ⟨v, hv⟩ := hviolation.mpr ⟨hmade.mpr ⟨"ERR_COP", hwell, .inr rfl⟩, by decide⟩
  obtain ⟨hone, htwo⟩ := htext v.toRecord (hrecord v hv) (Text.not_isLineBreak_of_all rfl)
    (Text.not_isLineBreak_of_all rfl)
  have hlines := htwo "ERR_COP" rfl
  refine ⟨v, hv, fun h ↦ ?_, hlines⟩
  exact absurd (congrArg List.length ((hone.mpr h).symm.trans hlines)) (by simp)

end StyleLinter
