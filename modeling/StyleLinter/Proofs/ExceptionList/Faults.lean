import StyleLinter.Proofs.ExceptionList.Grammar
import StyleLinter.Proofs.Failure

/-!
# The first fault of a list

A list is read if it is clean: each line that is not skipped is an entry, and no two of them have
the same key. Otherwise the reading ends at the first line after which the list is no longer clean,
and the failure has its number (`parse_accepts_exactly`). What carries this through the lines is the
table of the keys seen so far. **It stands for a clean part of the list** and knows the line of each
key (`Remembers`); a line that is skipped leaves it as it is (`Remembers.skip`), and an entry with a
new key adds to it (`Remembers.add`). What the rest of a run comes to, the whole run comes to with
the line at hand before it (`ComesTo.skip`, `ComesTo.read`).
-/

namespace StyleLinter.ExceptionList

/-! ### Clean lists -/

/-- The lines of a text without their outer blanks. -/
def trimmedLines (text : Text) : List Text := (Text.lines text).map Text.trim

/-- The lines that are not skipped, in order. -/
def readLines (ls : List Text) : List Text := ls.filter (!isSkipped ·)

/-- Both lines are entries, for the same finding. -/
def SameKey (l l' : Text) : Prop :=
  ∃ path n kind message message', Spells l path n kind message ∧ Spells l' path n kind message'

/-- **Each line that is read is an entry, and no two have the same key.** -/
structure IsClean (ls : List Text) : Prop where
  isEntry : ∀ l ∈ readLines ls, IsEntry l
  distinct : (readLines ls).Pairwise fun l l' ↦ ¬SameKey l l'

theorem mem_readLines_iff {ls : List Text} {l : Text} :
    l ∈ readLines ls ↔ l ∈ ls ∧ isSkipped l = false := by
  rw [readLines, List.mem_filter, Bool.not_eq_true']

theorem readLines_append (ls ls' : List Text) :
    readLines (ls ++ ls') = readLines ls ++ readLines ls' := List.filter_append ..

theorem readLines_cons_of_skipped {l : Text} (h : isSkipped l = true) (ls : List Text) :
    readLines (l :: ls) = readLines ls := List.filter_cons_of_neg (by simp [h])

theorem readLines_cons_of_read {l : Text} (h : isSkipped l = false) (ls : List Text) :
    readLines (l :: ls) = l :: readLines ls := List.filter_cons_of_pos (by simp [h])

/-- **Lines that are skipped do not matter.** -/
theorem isClean_congr {ls ls' : List Text} (h : readLines ls = readLines ls') :
    IsClean ls ↔ IsClean ls' :=
  ⟨fun hls ↦ ⟨h ▸ hls.isEntry, h ▸ hls.distinct⟩, fun hls ↦ ⟨h ▸ hls.isEntry, h ▸ hls.distinct⟩⟩

theorem readLines_concat_of_skipped {l : Text} (h : isSkipped l = true) (ls : List Text) :
    readLines (ls ++ [l]) = readLines ls := by
  rw [readLines_append, readLines_cons_of_skipped h]
  exact List.append_nil _

/-- **A clean list stays clean with an entry that has a new key**, and with no other line. -/
theorem isClean_concat_iff {ls : List Text} {l : Text} (hl : isSkipped l = false) :
    IsClean (ls ++ [l]) ↔ IsClean ls ∧ IsEntry l ∧ ∀ l' ∈ readLines ls, ¬SameKey l' l := by
  have he : readLines (ls ++ [l]) = readLines ls ++ [l] := by
    rw [readLines_append, readLines_cons_of_read hl]
    rfl
  constructor
  · rintro ⟨hentry, hdistinct⟩
    rw [he] at hentry hdistinct
    obtain ⟨hls, -, hl⟩ := List.pairwise_append.mp hdistinct
    exact ⟨⟨fun l' hl' ↦ hentry l' (List.mem_append_left _ hl'), hls⟩,
      hentry l (List.mem_append_right _ List.mem_cons_self), fun l' hl' ↦ hl l' hl' l List.mem_cons_self⟩
  · rintro ⟨⟨hentry, hdistinct⟩, hl, hnew⟩
    constructor
    · rw [he]
      intro l' hl'
      rcases List.mem_append.mp hl' with hl' | hl'
      · exact hentry l' hl'
      · exact List.mem_singleton.mp hl' ▸ hl
    · rw [he]
      refine List.pairwise_append.mpr ⟨hdistinct, List.pairwise_singleton .., fun l' hl' l'' hl'' ↦ ?_⟩
      exact List.mem_singleton.mp hl'' ▸ hnew l' hl'

/-- The first lines of a clean list are clean. -/
theorem IsClean.of_append {ls ls' : List Text} (h : IsClean (ls ++ ls')) : IsClean ls := by
  obtain ⟨hentry, hdistinct⟩ := h
  rw [readLines_append] at hentry hdistinct
  exact ⟨fun l hl ↦ hentry l (List.mem_append_left _ hl), (List.pairwise_append.mp hdistinct).1⟩

/-- Two lines have the same key exactly if the records on them do. -/
theorem sameKey_iff {l l' : Text} {r r' : Record} (h : parseLine l = .ok r)
    (h' : parseLine l' = .ok r') : SameKey l l' ↔ r.key = r'.key := by
  constructor
  · rintro ⟨path, n, kind, message, message', hl, hl'⟩
    obtain ⟨s, hs, hpath, hline, hkind, -⟩ := exists_parseLine_of_spells hl
    obtain ⟨s', hs', rfl, rfl, rfl, -⟩ := exists_parseLine_of_spells hl'
    obtain rfl := Except.ok.inj (h.symm.trans hs)
    obtain rfl := Except.ok.inj (h'.symm.trans hs')
    exact Key.eq_iff.mpr ⟨hpath, hline, hkind⟩
  · intro he
    have hl := parseLine_eq_ok_iff.mp h
    rw [he] at hl
    exact ⟨_, _, _, _, _, hl, parseLine_eq_ok_iff.mp h'⟩

/-! ### The table of keys -/

/-- **The table stands for the lines before**: they are clean, and it has the number of the line of
each of their keys. -/
structure Remembers (before : List Text) (seen : List (Key × Nat)) : Prop where
  clean : IsClean before
  line_of_lookup : ∀ {k m}, seen.lookup k = some m → ∃ front l rest r,
    before = front ++ l :: rest ∧ isSkipped l = false ∧ parseLine l = .ok r ∧ r.key = k ∧
      m = front.length + 1
  lookup_of_line : ∀ {l r}, l ∈ readLines before → parseLine l = .ok r → seen.lookup r.key ≠ none

theorem Remembers.nil : Remembers [] [] where
  clean := ⟨fun _ hl ↦ absurd hl List.not_mem_nil, .nil⟩
  line_of_lookup := nofun
  lookup_of_line hl := absurd hl List.not_mem_nil

/-- What the table knows of a line stays true with one more line. -/
theorem Remembers.line_concat {before : List Text} {seen : List (Key × Nat)}
    (h : Remembers before seen) (l : Text) {k : Key} {m : Nat} (hk : seen.lookup k = some m) :
    ∃ front l' rest r, before ++ [l] = front ++ l' :: rest ∧ isSkipped l' = false ∧
      parseLine l' = .ok r ∧ r.key = k ∧ m = front.length + 1 := by
  obtain ⟨front, l', rest, r, rfl, hr⟩ := h.line_of_lookup hk
  exact ⟨front, l', rest ++ [l], r, by rw [List.append_assoc, List.cons_append], hr⟩

theorem Remembers.skip {before : List Text} {seen : List (Key × Nat)} (h : Remembers before seen)
    {l : Text} (hl : isSkipped l = true) : Remembers (before ++ [l]) seen where
  clean := (isClean_congr (readLines_concat_of_skipped hl before)).mpr h.clean
  line_of_lookup hk := h.line_concat l hk
  lookup_of_line hl' hr := h.lookup_of_line (readLines_concat_of_skipped hl before ▸ hl') hr

/-- No line before has a key that the table does not have. -/
theorem Remembers.not_sameKey {before : List Text} {seen : List (Key × Nat)}
    (h : Remembers before seen) {l : Text} {r : Record} (hr : parseLine l = .ok r)
    (hnone : seen.lookup r.key = none) : ∀ l' ∈ readLines before, ¬SameKey l' l := by
  intro l' hl' hsame
  obtain ⟨r', hr'⟩ := isEntry_iff.mp (h.clean.isEntry l' hl')
  have hne := h.lookup_of_line hl' hr'
  rw [(sameKey_iff hr' hr).mp hsame] at hne
  exact hne hnone

theorem Remembers.add {before : List Text} {seen : List (Key × Nat)} (h : Remembers before seen)
    {l : Text} {r : Record} (hl : isSkipped l = false) (hr : parseLine l = .ok r)
    (hnone : seen.lookup r.key = none) :
    Remembers (before ++ [l]) ((r.key, before.length + 1) :: seen) where
  clean := (isClean_concat_iff hl).mpr ⟨h.clean, isEntry_iff.mpr ⟨r, hr⟩, h.not_sameKey hr hnone⟩
  line_of_lookup := by
    intro k m hk
    rw [List.lookup_cons] at hk
    split at hk
    · next he => exact ⟨before, l, [], r, rfl, hl, hr, (beq_iff_eq.mp he).symm, (Option.some.inj hk).symm⟩
    · exact h.line_concat l hk
  lookup_of_line := by
    intro l' r' hl' hr'
    rw [List.lookup_cons]
    split
    · nofun
    · next hne =>
      rw [readLines_append, readLines_cons_of_read hl] at hl'
      rcases List.mem_append.mp hl' with hl' | hl'
      · exact h.lookup_of_line hl' hr'
      · obtain rfl := List.mem_singleton.mp hl'
        obtain rfl := Except.ok.inj (hr.symm.trans hr')
        exact absurd hne (by simp)

/-! ### A run over the lines -/

/-- **The line is the first at fault**: the lines before it are clean, and it is no entry or has the
key of an earlier line, which the fault names. -/
structure IsFirstFault (before : List Text) (line : Text) (fault : RecordFault) : Prop where
  clean : IsClean before
  read : isSkipped line = false
  why : ¬IsEntry line ∧ parseLine line = .error fault ∨
    ∃ front l rest, before = front ++ l :: rest ∧ isSkipped l = false ∧ SameKey l line ∧
      fault = .repeats (front.length + 1)

/-- A list with a first fault is not clean. -/
theorem IsFirstFault.not_isClean {before : List Text} {line : Text} {fault : RecordFault}
    (h : IsFirstFault before line fault) (after : List Text) : ¬IsClean (before ++ line :: after) := by
  intro hclean
  have hline : IsClean (before ++ [line]) := by
    rw [← List.singleton_append, ← List.append_assoc] at hclean
    exact hclean.of_append
  obtain ⟨-, hentry, hnew⟩ := (isClean_concat_iff h.read).mp hline
  rcases h.why with ⟨hno, -⟩ | ⟨front, l, rest, rfl, hl, hsame, -⟩
  · exact hno hentry
  · exact hnew l (mem_readLines_iff.mpr ⟨List.mem_append_right _ List.mem_cons_self, hl⟩) hsame

/-- **What a run over lines can come to** after the lines before. Either all lines are clean
together, and each line that is read gives its record; or the run ends at the first fault. -/
def ComesTo (before ls : List Text) (result : Except (Nat × RecordFault) (List Record)) : Prop :=
  (∃ rs, result = .ok rs ∧ IsClean (before ++ ls) ∧
      List.Forall₂ (fun l r ↦ parseLine l = .ok r) (readLines ls) rs) ∨
    ∃ front line after fault, ls = front ++ line :: after ∧
      IsFirstFault (before ++ front) line fault ∧
      result = .error ((before ++ front).length + 1, fault)

section Steps

variable {before ls : List Text} {l : Text} {result : Except (Nat × RecordFault) (List Record)}

theorem ComesTo.skip (h : ComesTo (before ++ [l]) ls result) (hl : isSkipped l = true) :
    ComesTo before (l :: ls) result := by
  rcases h with ⟨rs, hrs, hclean, hall⟩ | ⟨front, line, after, fault, rfl, hfault, herror⟩
  · rw [List.append_assoc, List.singleton_append] at hclean
    exact .inl ⟨rs, hrs, hclean, (readLines_cons_of_skipped hl ls).symm ▸ hall⟩
  · rw [List.append_assoc, List.singleton_append] at hfault herror
    exact .inr ⟨l :: front, line, after, fault, rfl, hfault, herror⟩

theorem ComesTo.read (h : ComesTo (before ++ [l]) ls result) (hl : isSkipped l = false) {r : Record}
    (hr : parseLine l = .ok r) : ComesTo before (l :: ls) ((r :: ·) <$> result) := by
  rcases h with ⟨rs, rfl, hclean, hall⟩ | ⟨front, line, after, fault, rfl, hfault, rfl⟩
  · rw [List.append_assoc, List.singleton_append] at hclean
    exact .inl ⟨r :: rs, rfl, hclean, (readLines_cons_of_read hl ls).symm ▸ .cons hr hall⟩
  · rw [List.append_assoc, List.singleton_append] at hfault ⊢
    exact .inr ⟨l :: front, line, after, fault, rfl, hfault, rfl⟩

/-- A run ends at a line that is at fault. -/
theorem IsFirstFault.comesTo {fault : RecordFault} (h : IsFirstFault before l fault)
    (ls : List Text) : ComesTo before (l :: ls) (.error (before.length + 1, fault)) := by
  refine .inr ⟨[], l, ls, fault, rfl, ?_, ?_⟩
  · rwa [List.append_nil]
  · rw [List.append_nil]

end Steps

/-- **A run over lines** comes to what it can, if its table stands for the lines before. -/
theorem comesTo_parseLines (raws : List Text) {before : List Text} {seen : List (Key × Nat)}
    (h : Remembers before seen) :
    ComesTo before (raws.map Text.trim) (parseLines seen (before.length + 1) raws) := by
  induction raws generalizing before seen with
  | nil =>
    exact .inl ⟨[], rfl, (List.append_nil before).symm ▸ h.clean, .nil⟩
  | cons raw raws ih =>
    have hnext {seen' : List (Key × Nat)} (h' : Remembers (before ++ [Text.trim raw]) seen') :
        ComesTo (before ++ [Text.trim raw]) (raws.map Text.trim)
          (parseLines seen' (before.length + 1 + 1) raws) := by
      have hlength : (before ++ [Text.trim raw]).length = before.length + 1 := List.length_append
      exact hlength ▸ ih h'
    rw [parseLines, List.map_cons]
    cases hskip : isSkipped (Text.trim raw) with
    | true =>
      rw [if_pos rfl]
      exact (hnext (h.skip hskip)).skip hskip
    | false =>
      rw [if_neg Bool.false_ne_true]
      cases hr : parseLine (Text.trim raw) with
      | error f =>
        have hno : ¬IsEntry (Text.trim raw) := by
          rw [isEntry_iff, hr]
          rintro ⟨r, he⟩
          cases he
        exact IsFirstFault.comesTo ⟨h.clean, hskip, .inl ⟨hno, hr⟩⟩ _
      | ok r =>
        cases hseen : seen.lookup r.key with
        | some m =>
          obtain ⟨front, l, rest, r', rfl, hl, hr', hk, rfl⟩ := h.line_of_lookup hseen
          have hsame : SameKey l (Text.trim raw) := (sameKey_iff hr' hr).mpr hk
          dsimp only
          rw [hseen]
          exact IsFirstFault.comesTo ⟨h.clean, hskip, .inr ⟨front, l, rest, rfl, hl, hsame, rfl⟩⟩ _
        | none =>
          dsimp only
          rw [hseen]
          exact (hnext (h.add hskip hr hseen)).read hskip hr

/-! ### A whole list -/

/-- The reader states no fault in words of its own. -/
theorem ne_stated_of_parseLine {line : Text} {fault : RecordFault}
    (h : parseLine line = .error fault) (reason : Text) : fault ≠ .stated reason := by
  rintro rfl
  unfold parseLine at h
  split at h
  · split at h
    · exact absurd h nofun
    · split at h
      · exact absurd h nofun
      · exact absurd (mapError_eq_error_iff.mp h) nofun
  · exact absurd h nofun

theorem IsFirstFault.ne_stated {before : List Text} {line : Text} {fault : RecordFault}
    (h : IsFirstFault before line fault) (reason : Text) : fault ≠ .stated reason := by
  rcases h.why with ⟨-, h⟩ | ⟨front, -, -, -, -, -, rfl⟩
  · exact ne_stated_of_parseLine h reason
  · nofun

/-- **What reading a list comes to.** -/
theorem parse_cases (text : Text) {source : Text} (hsource : source ≠ []) :
    (∃ rs, parse text source = .ok rs ∧ IsClean (trimmedLines text) ∧
        (readLines (trimmedLines text)).mapM parseLine = .ok rs) ∨
      ∃ before line after fault, trimmedLines text = before ++ line :: after ∧
        IsFirstFault before line fault ∧
        parse text source = .error (.record source (before.length + 1) fault) := by
  obtain ⟨rs, hrs, hclean, hall⟩ | ⟨before, line, after, fault, he, hfault, herror⟩ :=
    comesTo_parseLines (Text.lines text) .nil
  · exact .inl ⟨rs, mapError_eq_ok_iff.mpr hrs, hclean, mapM_eq_ok_iff.mpr hall⟩
  · refine .inr ⟨before, line, after, fault, he, hfault, ?_⟩
    exact mapError_eq_error_iff.mpr
      ⟨_, herror, Failure.ofRecord_eq hsource (Nat.succ_pos _) hfault.ne_stated⟩

/-- **A list is read exactly if it is clean**, as the records on its lines. -/
theorem parse_eq_ok_iff {text source : Text} (hsource : source ≠ []) {rs : List Record} :
    parse text source = .ok rs ↔
      IsClean (trimmedLines text) ∧ (readLines (trimmedLines text)).mapM parseLine = .ok rs := by
  rcases parse_cases text hsource with
    ⟨rs', hrs', hclean, hall⟩ | ⟨before, line, after, fault, he, hfault, herror⟩
  · rw [hrs', hall]
    exact ⟨fun h ↦ ⟨hclean, Except.ok.inj h ▸ rfl⟩, fun h ↦ Except.ok.inj h.2 ▸ rfl⟩
  · rw [herror, he]
    exact ⟨nofun, fun h ↦ absurd h.1 (hfault.not_isClean after)⟩

/-- **Lists are read exactly according to their grammar, and the first fault is reported.** Whatever
the text, reading it succeeds exactly if each line that is not skipped is an entry and no two of
these have the same key; then the records are those of the lines, in order. Otherwise the failure is
about the first line that is no entry or repeats a key, whose number counts the lines that are
skipped, and for a repeated key it names the earlier line. Lines that are skipped can be put in and
taken out anywhere, and no record changes. -/
theorem parse_accepts_exactly (text : Text) {source : Text} (hsource : source ≠ []) :
    ((∃ rs, parse text source = .ok rs) ↔ IsClean (trimmedLines text)) ∧
    (∀ rs, parse text source = .ok rs →
      List.Forall₂ (fun l r ↦ Spells l r.key.path r.key.line r.key.kind r.message)
        (readLines (trimmedLines text)) rs) ∧
    (∀ f, parse text source = .error f → ∃ before line after fault,
      trimmedLines text = before ++ line :: after ∧ IsFirstFault before line fault ∧
        f = .record source (before.length + 1) fault) ∧
    ∀ text' front skipped rest, Text.lines text = front ++ rest →
      Text.lines text' = front ++ skipped ++ rest →
      (∀ l ∈ skipped, isSkipped (Text.trim l) = true) →
      ∀ rs, parse text' source = .ok rs ↔ parse text source = .ok rs := by
  refine ⟨⟨?_, fun hclean ↦ ?_⟩, fun rs h ↦ ?_, fun f h ↦ ?_, ?_⟩
  · rintro ⟨rs, h⟩
    exact ((parse_eq_ok_iff hsource).mp h).1
  · obtain ⟨rs, hrs⟩ := exists_mapM fun l hl ↦ isEntry_iff.mp (hclean.isEntry l hl)
    exact ⟨rs, (parse_eq_ok_iff hsource).mpr ⟨hclean, hrs⟩⟩
  · have hall := mapM_eq_ok_iff.mp ((parse_eq_ok_iff hsource).mp h).2
    exact hall.imp fun _ _ hr ↦ parseLine_eq_ok_iff.mp hr
  · rcases parse_cases text hsource with
      ⟨rs, hrs, -⟩ | ⟨before, line, after, fault, he, hfault, herror⟩
    · exact absurd (hrs.symm.trans h) nofun
    · exact ⟨before, line, after, fault, he, hfault, (Except.error.inj (herror.symm.trans h)).symm⟩
  · intro text' front skipped rest htext htext' hskipped rs
    have hnone : readLines (skipped.map Text.trim) = [] := by
      refine List.filter_eq_nil_iff.mpr fun l hl ↦ ?_
      obtain ⟨raw, hraw, rfl⟩ := List.mem_map.mp hl
      simp [hskipped raw hraw]
    have hread : readLines (trimmedLines text') = readLines (trimmedLines text) := by
      rw [trimmedLines, trimmedLines, htext, htext', List.map_append, List.map_append,
        List.map_append, readLines_append, readLines_append, readLines_append, hnone,
        List.append_nil]
    rw [parse_eq_ok_iff hsource, parse_eq_ok_iff hsource, isClean_congr hread, hread]

/-- A list with a comment, a blank line, and two entries for one finding. -/
def repetitive : Text := "# accepted\nA.lean : 1 : MY_1 : m\n \nA.lean:line 01:MY_1:\nB.lean\n"

/-- **The fourth line repeats the second.** The fifth is no entry, but this comes too late. -/
theorem parse_accepts_exactly_repetitive :
    ¬IsClean (trimmedLines repetitive) ∧ ∃ before line after,
      trimmedLines repetitive = before ++ line :: after ∧ before.length = 3 ∧
        IsFirstFault before line (.repeats 2) := by
  obtain ⟨hok, -, hfault, -⟩ := parse_accepts_exactly repetitive (by decide : unnamed ≠ [])
  have herror : parse repetitive unnamed = .error (.record unnamed 4 (.repeats 2)) := rfl
  obtain ⟨before, line, after, fault, he, hfirst, hf⟩ := hfault _ herror
  rw [Failure.record.injEq] at hf
  obtain ⟨-, hlength, rfl⟩ := hf
  refine ⟨fun hclean ↦ ?_, before, line, after, he, by omega, hfirst⟩
  obtain ⟨rs, hrs⟩ := hok.mpr hclean
  exact absurd (herror.symm.trans hrs) nofun

end StyleLinter.ExceptionList
