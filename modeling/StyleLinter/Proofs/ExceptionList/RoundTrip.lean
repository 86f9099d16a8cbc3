import Mathlib.Data.List.Nodup
import StyleLinter.Proofs.ExceptionList.Listing

/-!
# Writing and reading are each other's second side

`write_then_parse` starts from records. What is read of the list that was written is one record for
each key, in strictly increasing order, and it is the **last of the records with this key**
(`IsLast`). The records must be such that a list can hold them, and nothing more is asked: they may
come in any order, and keys may be repeated.

`parse_then_write` starts from a text, and asks nothing of it but that it can be read. It rests on
two facts about what can be read: all of it is listable (`isListable_of_parse`), and no key occurs
in it twice (`nodup_keys_of_parse`). So writing what was read loses nothing; it only brings the
records into their order, after which there is **one way to write them**.
-/

namespace StyleLinter

/-- **A record is listable if its parts are.** The tag of a kind has a line feed at its end or
nowhere. -/
theorem Record.isListable_iff {r : Record} : r.IsListable ↔
    ExceptionList.IsListable r.key.path ∧ r.key.kind.getLast? ≠ some '\n' ∧
      ExceptionList.IsNote r.message ∧ (Text.ofNat r.key.line).length ≤ Text.digitLimit := by
  constructor
  · intro h
    exact ⟨h.path, fun hlast ↦ h.kind (List.mem_of_getLast? hlast), h.note,
      of_decide_eq_true h.writable⟩
  · rintro ⟨hpath, hlast, hnote, hnumber⟩
    exact ⟨hpath, mt (Kind.getLast?_of_mem_newline r.key.kind_isTag) hlast, hnote,
      decide_eq_true hnumber⟩

namespace ExceptionList

/-! ### The last record with a key -/

/-- Is the record one of the records, with none of its key after it? -/
def IsLast (rs : List Record) (r : Record) : Prop :=
  ∃ before after, rs = before ++ r :: after ∧ ∀ s ∈ after, s.key ≠ r.key

theorem isLast_cons_iff {r s : Record} {rs : List Record} : IsLast (s :: rs) r ↔
    IsLast rs r ∨ s = r ∧ ∀ q ∈ rs, q.key ≠ r.key := by
  constructor
  · rintro ⟨before, after, he, hafter⟩
    cases before with
    | nil =>
      obtain ⟨rfl, rfl⟩ := List.cons.inj he
      exact .inr ⟨rfl, hafter⟩
    | cons b before =>
      obtain ⟨-, rfl⟩ := List.cons.inj he
      exact .inl ⟨before, after, rfl, hafter⟩
  · rintro (⟨before, after, rfl, hafter⟩ | ⟨rfl, hrs⟩)
    · exact ⟨s :: before, after, rfl, hafter⟩
    · exact ⟨[], rs, rfl, hrs⟩

/-- **Of each key the last record is kept.** -/
theorem mem_lastOfEach_iff {rs : List Record} {r : Record} : r ∈ lastOfEach rs ↔ IsLast rs r := by
  induction rs with
  | nil =>
    refine ⟨fun h ↦ absurd h List.not_mem_nil, ?_⟩
    rintro ⟨before, after, he, -⟩
    exact absurd he (by simp)
  | cons s rs ih =>
    -- the first record stays if no later one has its key, and then it is the last with this key
    have hany : (lastOfEach rs).any (·.key = s.key) = true ↔ ∃ q ∈ rs, q.key = s.key := by
      rw [List.any_eq_true]
      constructor
      · rintro ⟨q, hq, he⟩
        exact ⟨q, mem_of_mem_lastOfEach hq, of_decide_eq_true he⟩
      · rintro ⟨q, hq, he⟩
        obtain ⟨q', hq', he'⟩ := exists_mem_lastOfEach hq
        exact ⟨q', hq', decide_eq_true (he'.trans he)⟩
    rw [lastOfEach_cons, isLast_cons_iff, ← ih]
    split
    · next h =>
      obtain ⟨q, hq, he⟩ := hany.mp h
      refine ⟨.inl, fun h ↦ h.elim id ?_⟩
      rintro ⟨rfl, hrs⟩
      exact absurd he (hrs q hq)
    · next h =>
      have hnone : ∀ q ∈ rs, q.key ≠ s.key := fun q hq he ↦ h (hany.mpr ⟨q, hq, he⟩)
      rw [List.mem_cons, or_comm]
      refine or_congr_right ⟨?_, fun h ↦ h.1.symm⟩
      rintro rfl
      exact ⟨rfl, hnone⟩

/-- **One record for each key.** -/
theorem existsUnique_mem_lastOfEach {rs : List Record} {r : Record} (h : r ∈ rs) :
    ∃! s, s ∈ lastOfEach rs ∧ s.key = r.key := by
  obtain ⟨s, hs, he⟩ := exists_mem_lastOfEach h
  refine ⟨s, ⟨hs, he⟩, ?_⟩
  rintro s' ⟨hs', he'⟩
  exact List.inj_on_of_nodup_map (nodup_keys_lastOfEach rs) hs' hs (he'.trans he.symm)

/-! ### From records to records -/

/-- **What was written is read back.** Let a list be able to hold the path and the message of each
record as they stand, let no kind end with a line feed and no number be too long. Then the records
can be written, in any order and with any keys repeated, and what is read of the list is strictly
increasing and has one record for each key, the last one. -/
theorem write_then_parse {rs : List Record} (hpath : ∀ r ∈ rs, IsListable r.key.path)
    (hkind : ∀ r ∈ rs, r.key.kind.getLast? ≠ some '\n') (hnote : ∀ r ∈ rs, IsNote r.message)
    (hnumber : ∀ r ∈ rs, (Text.ofNat r.key.line).length ≤ Text.digitLimit) (source : Text) :
    ∃ text out, write rs = .ok text ∧ parse text source = .ok out ∧
      out.Pairwise Record.Precedes ∧
      (∀ r ∈ rs, ∃! s, s ∈ out ∧ s.key = r.key) ∧
      ∀ s, s ∈ out ↔ IsLast rs s := by
  have hr : ∀ r ∈ rs, r.IsListable := fun r hr ↦
    Record.isListable_iff.mpr ⟨hpath r hr, hkind r hr, hnote r hr, hnumber r hr⟩
  have hwrite : write rs = .ok (render rs) :=
    write_eq_ok_iff.mpr ⟨fun r h ↦ (hr r h).writable, rfl⟩
  refine ⟨render rs, _, hwrite, parse_render hr source,
    Record.pairwise_precedes_sorted (nodup_keys_lastOfEach rs), fun r h ↦ ?_, fun s ↦ ?_⟩
  · simpa only [Record.mem_sorted] using existsUnique_mem_lastOfEach h
  · rw [Record.mem_sorted, mem_lastOfEach_iff]

/-- A record for a line after the first one. -/
def sampleRecord (before : Nat) (message : Text) : Record where
  key := ⟨"B/Y.lean", before + 1, "MY_1", by decide, by decide, Nat.succ_pos before, by decide⟩
  message := message

/-- **Three records, two of them with one key.** The message of the second is empty, and that of the
third has a colon and a number sign. -/
theorem write_then_parse_repeated :
    ∃ text out, write [sampleRecord 11 "old", sampleRecord 1 [], sampleRecord 11 "see: #3"] = .ok text ∧
      parse text unnamed = .ok out ∧ sampleRecord 11 "old" ∉ out ∧ sampleRecord 1 [] ∈ out ∧
      sampleRecord 11 "see: #3" ∈ out := by
  have h := @write_then_parse [sampleRecord 11 "old", sampleRecord 1 [], sampleRecord 11 "see: #3"]
    (by decide) (by decide) (by decide) (by decide) unnamed
  obtain ⟨text, out, hwrite, hparse, -, hunique, hmem⟩ := h
  have hsecond : sampleRecord 1 [] ∈ out := (hmem _).mpr ⟨[_], [_], rfl, by decide⟩
  have hthird : sampleRecord 11 "see: #3" ∈ out := (hmem _).mpr ⟨[_, _], [], rfl, by decide⟩
  refine ⟨text, out, hwrite, hparse, fun hfirst ↦ ?_, hsecond, hthird⟩
  have he : sampleRecord 11 "old" = sampleRecord 11 "see: #3" :=
    (hunique _ List.mem_cons_self).unique ⟨hfirst, rfl⟩ ⟨hthird, rfl⟩
  exact absurd he (by decide)

/-! ### From text to text -/

theorem nodup_keys_of_parseLines {ls : List Text} {seen : List (Key × Nat)} {n : Nat}
    {rs : List Record} (h : parseLines seen n ls = .ok rs) :
    (rs.map (·.key)).Nodup ∧ ∀ r ∈ rs, seen.lookup r.key = none := by
  induction ls generalizing seen n rs with
  | nil =>
    obtain rfl := Except.ok.inj h
    exact ⟨List.nodup_nil, fun r hr ↦ absurd hr List.not_mem_nil⟩
  | cons l ls ih =>
    simp only [parseLines] at h
    split at h
    · exact ih h
    · split at h
      · cases h
      · next r hr =>
        split at h
        · cases h
        · next hnone =>
          obtain ⟨rs', hrs', rfl⟩ := map_eq_ok_iff.mp h
          obtain ⟨hnd, hseen⟩ := ih hrs'
          -- the records of the later lines were read with the key of this one among those seen
          have hlater : ∀ s ∈ rs', s.key ≠ r.key ∧ seen.lookup s.key = none := by
            intro s hs
            have hlookup := hseen s hs
            rw [List.lookup_cons] at hlookup
            split at hlookup
            · cases hlookup
            · next hne => exact ⟨by simpa using hne, hlookup⟩
          refine ⟨?_, fun s hs ↦ ?_⟩
          · rw [List.map_cons, List.nodup_cons, List.mem_map]
            refine ⟨?_, hnd⟩
            rintro ⟨s, hs, he⟩
            exact (hlater s hs).1 he
          · rcases List.mem_cons.mp hs with rfl | hs
            · exact hnone
            · exact (hlater s hs).2

/-- **No key occurs twice in what was read.** -/
theorem nodup_keys_of_parse {text source : Text} {rs : List Record}
    (h : parse text source = .ok rs) : (rs.map (·.key)).Nodup :=
  (nodup_keys_of_parseLines (mapError_eq_ok_iff.mp h)).1

/-- **What was read is written in the one form there is for it.** Whatever text was read, its
records can be written, and what is read of the list they make is the same records in strictly
increasing order; writing these makes the same list. -/
theorem parse_then_write {text source : Text} {rs : List Record} (h : parse text source = .ok rs) :
    ∃ written out, write rs = .ok written ∧ (∀ source', parse written source' = .ok out) ∧
      out.Perm rs ∧ out.Pairwise Record.Precedes ∧ write out = .ok written := by
  have hr := isListable_of_parse h
  have hnd := nodup_keys_of_parse h
  have hwritable : ∀ r ∈ rs, r.isWritable = true := fun r hmem ↦ (hr r hmem).writable
  have hperm := Record.sorted_perm rs
  refine ⟨render rs, Record.sorted rs, write_eq_ok_iff.mpr ⟨hwritable, rfl⟩, fun source' ↦ ?_, hperm,
    Record.pairwise_precedes_sorted hnd, write_eq_ok_iff.mpr ⟨fun r hmem ↦ ?_, ?_⟩⟩
  · rw [parse_render hr, lastOfEach_eq_self hnd]
  · exact hwritable r (hperm.mem_iff.mp hmem)
  · exact render_eq_of_perm hperm.symm hnd

/-- A list that people wrote, with a comment, a blank line, a bare number with leading zeros, digits
of another script, and an empty message. -/
def handwritten : Text :=
  "# accepted\n\n  B.lean:007 :ERR_LIN: m : n \nA.lean : line\u00a0٣ : MY_1 :\r\n"

/-- **A list that people wrote** is brought into its form. -/
theorem parse_then_write_handwritten :
    ∃ rs written out, parse handwritten unnamed = .ok rs ∧ rs.length = 2 ∧ write rs = .ok written ∧
      parse written unnamed = .ok out ∧ out.Perm rs ∧ out.Pairwise Record.Precedes ∧
      write out = .ok written := by
  have h : ∃ rs, parse handwritten unnamed = .ok rs ∧ rs.length = 2 := ⟨_, rfl, rfl⟩
  obtain ⟨rs, hrs, hlength⟩ := h
  obtain ⟨written, out, hwrite, hparse, hperm, hsorted, hagain⟩ := parse_then_write hrs
  exact ⟨rs, written, out, hrs, hlength, hwrite, hparse unnamed, hperm, hsorted, hagain⟩

end ExceptionList

end StyleLinter
