import Mathlib.Data.Nat.Find
import StyleLinter.Proofs.Check.Findings
import StyleLinter.Proofs.Text.Endings

/-!
# The grammar of headers

What a header has to be, said without the checker: which lines come first (`Fits`), where the
closing line is (`IsClosing`), and which authors are no plain list (`IsMalformed`). `Verdict` puts
this together. It has one case for each way in which lines can come out: a line deviates, the
lines end too early, no line closes the header, its authors are malformed, or nothing is wrong.

**The checker finds what the verdict says** (`findings_eq_iff_verdict`). This needs that every list
of lines has a verdict (`exists_verdict`), and that the checker agrees with each verdict
(`Verdict.findings_eq`); the second is where its tests, which run line after line, are put against
the lines with an index.

No verdict looks beyond a closing line (`Verdict.of_take`), wherever that line is, since a closing
line deviates where it is one of the first four. So **what follows the header does not matter**.
-/

namespace StyleLinter.Check.Header

variable {text : List Text} {line t : Text} {n k : Nat} {fs : List Finding}

/-! ### The line with the rights -/

/-- A year has four digits. -/
def IsYear (t : Text) : Prop := t.length = 4 ∧ ∀ c ∈ t, Text.isDigit c = true

/-- A year, or the first and the last one of some years. -/
inductive IsYears : Text → Prop
  | /-- One year. -/
    year {y : Text} : IsYear y → IsYears y
  | /-- Some years. -/
    range {y z : Text} : IsYear y → IsYear z → IsYears (y ++ '-' :: z)

/-- A name begins with no blank, and it does not go over to another line. -/
def IsName (t : Text) : Prop := ∃ c r, t = c :: r ∧ Text.isBlank c = false ∧ '\n' ∉ r

/-- The line that says who has the rights, and since when. -/
def IsRights (line : Text) : Prop :=
  ∃ years name, IsYears years ∧ IsName name ∧
    line = "Copyright (c) ".toList ++ (years ++ ' ' :: (name ++ reserved))

theorem afterYear?_eq_some_iff {r : Text} :
    afterYear? t = some r ↔ ∃ y, IsYear y ∧ t = y ++ r := by
  constructor
  · intro h
    unfold afterYear? at h
    split at h
    · next a b c d r' =>
      split at h
      · next hall =>
        obtain rfl := Option.some.inj h
        exact ⟨[a, b, c, d], ⟨rfl, List.all_eq_true.mp hall⟩, rfl⟩
      · exact absurd h nofun
    · exact absurd h nofun
  · rintro ⟨y, ⟨hlength, hdigits⟩, rfl⟩
    match y, hlength with
    | [a, b, c, d], _ => exact if_pos (List.all_eq_true.mpr hdigits)

/-- **The years end at a blank.** -/
theorem afterYears?_eq_some_iff {r : Text} :
    afterYears? t = some (' ' :: r) ↔ ∃ ys, IsYears ys ∧ t = ys ++ ' ' :: r := by
  constructor
  · intro h
    unfold afterYears? at h
    split at h
    · next r' hfirst =>
      obtain ⟨y, hy, rfl⟩ := afterYear?_eq_some_iff.mp hfirst
      obtain ⟨z, hz, rfl⟩ := afterYear?_eq_some_iff.mp h
      exact ⟨y ++ '-' :: z, .range hy hz, by rw [List.append_assoc, List.cons_append]⟩
    · obtain ⟨y, hy, rfl⟩ := afterYear?_eq_some_iff.mp h
      exact ⟨y, .year hy, rfl⟩
  · rintro ⟨ys, hys, rfl⟩
    cases hys with
    | year hy =>
      rw [afterYears?, afterYear?_eq_some_iff.mpr ⟨ys, hy, rfl⟩]
      rfl
    | @range y z hy hz =>
      have hfirst : afterYear? (y ++ '-' :: z ++ ' ' :: r) = some ('-' :: (z ++ ' ' :: r)) :=
        afterYear?_eq_some_iff.mpr ⟨y, hy, by rw [List.append_assoc, List.cons_append]⟩
      rw [afterYears?, hfirst]
      exact afterYear?_eq_some_iff.mpr ⟨z, hz, rfl⟩

theorem isHolder_append (name : Text) : isHolder (name ++ reserved) = true ↔ IsName name := by
  have hends : Text.endsWith (name ++ reserved) reserved = true := Text.endsWith_append _ _
  have htake : (name ++ reserved).take ((name ++ reserved).length - reserved.length) = name := by
    rw [List.length_append, Nat.add_sub_cancel, List.take_left]
  rw [isHolder, hends, htake, Bool.true_and]
  cases name with
  | nil => simp [IsName]
  | cons c r => simp [IsName]

theorem isHolder_iff : isHolder t = true ↔ ∃ name, IsName name ∧ t = name ++ reserved := by
  constructor
  · intro h
    obtain ⟨name, rfl⟩ : reserved <:+ t := by
      rw [isHolder, Bool.and_eq_true] at h
      exact List.isSuffixOf_iff_suffix.mp h.1
    exact ⟨name, (isHolder_append name).mp h, rfl⟩
  · rintro ⟨name, h, rfl⟩
    exact (isHolder_append name).mpr h

/-- **The line with the rights** is told by its parts. -/
theorem isCopyright_iff : isCopyright line = true ↔ IsRights line := by
  constructor
  · intro h
    unfold isCopyright at h
    split at h
    · next r hr =>
      obtain ⟨rest, hrest, hyears⟩ := Option.bind_eq_some_iff.mp hr
      obtain ⟨years, hy, rfl⟩ := afterYears?_eq_some_iff.mp hyears
      obtain ⟨name, hname, rfl⟩ := isHolder_iff.mp h
      exact ⟨years, name, hy, hname, Text.after?_eq_some_iff.mp hrest⟩
    · exact absurd h nofun
  · rintro ⟨years, name, hy, hname, hline⟩
    rw [isCopyright, Text.after?_eq_some_iff.mpr hline, Option.bind_some,
      afterYears?_eq_some_iff.mpr ⟨years, hy, rfl⟩]
    exact (isHolder_append name).mpr hname

/-! ### The first four lines -/

/-- What the line with the index has to be in a header. Only four lines are fixed. -/
def Fits : Nat → Text → Prop
  | 0, line => line = opening
  | 1, line => IsRights line
  | 2, line => line = licence
  | 3, line => authorsMark <+: line
  | _, _ => True

/-- Are the first `n` lines there, each of them what it has to be? -/
def Begins (text : List Text) (n : Nat) : Prop := ∀ i < n, ∃ line, text[i]? = some line ∧ Fits i line

/-- Is this the index of the first line from the fifth on that closes the header? -/
structure IsClosing (text : List Text) (k : Nat) : Prop where
  /-- Four lines come before it. -/
  four_le : 4 ≤ k
  /-- It closes the header. -/
  closes : text[k]? = some closing
  /-- No line between them does. -/
  first : ∀ j, 4 ≤ j → j < k → text[j]? ≠ some closing

/-- The authors, from the fourth line to the closing one: what follows the mark, and then each of
the other lines trimmed, with blanks between them. -/
def authorsBefore (text : List Text) (k : Nat) : Text :=
  Text.trim (Text.joinWith " " (((text[3]?).getD []).drop authorsMark.length ::
    ((text.take k).drop 4).map Text.trim))

/-- Are the authors something else than a plain list? -/
def IsMalformed (authors : Text) : Prop :=
  authors = [] ∨ authors.getLast? = some '.' ∨ " and ".toList <:+: authors

/-- How lines come out that are to begin with a header. -/
inductive Verdict (text : List Text) : List Finding → Prop
  | /-- A line is not what it has to be. It is the first one. -/
    deviates {n : Nat} {line : Text} : n < 4 → Begins text n → text[n]? = some line → ¬ Fits n line →
      Verdict text [.plain (n + 1) .header]
  | /-- The lines end too early. -/
    ends : text.length < 4 → Begins text text.length →
      Verdict text [.plain (max text.length 1) .header]
  | /-- No line closes the header. -/
    unclosed : Begins text 4 → (∀ k, 4 ≤ k → text[k]? ≠ some closing) →
      Verdict text [.plain text.length .header]
  | /-- The authors are no plain list. -/
    authors {k : Nat} : Begins text 4 → IsClosing text k → IsMalformed (authorsBefore text k) →
      Verdict text [.plain 4 .authors]
  | /-- Nothing is wrong. -/
    clean {k : Nat} : Begins text 4 → IsClosing text k → ¬ IsMalformed (authorsBefore text k) →
      Verdict text []

/-! ### Every text has a verdict -/

theorem Begins.mono {m : Nat} (h : Begins text n) (hm : m ≤ n) : Begins text m :=
  fun i hi ↦ h i (Nat.lt_of_lt_of_le hi hm)

theorem Begins.succ (h : Begins text n) (hline : text[n]? = some line) (hfits : Fits n line) :
    Begins text (n + 1) := by
  intro i hi
  rcases Nat.lt_succ_iff_lt_or_eq.mp hi with hi | rfl
  · exact h i hi
  · exact ⟨line, hline, hfits⟩

/-- The first lines are what they have to be, or there is a verdict at one of them. -/
theorem begins_or_exists_verdict (text : List Text) (hn : n ≤ 4) :
    Begins text n ∨ ∃ fs, Verdict text fs := by
  induction n with
  | zero => exact .inl nofun
  | succ n ih =>
    refine (ih (by omega)).elim (fun h ↦ ?_) .inr
    cases hline : text[n]? with
    | none =>
      have hlength : text.length ≤ n := List.getElem?_eq_none_iff.mp hline
      exact .inr ⟨_, .ends (by omega) (h.mono hlength)⟩
    | some line =>
      by_cases hfits : Fits n line
      · exact .inl (h.succ hline hfits)
      · exact .inr ⟨_, .deviates (by omega) h hline hfits⟩

/-- If a line closes the header, there is a first one. -/
theorem exists_isClosing (hk : 4 ≤ k) (h : text[k]? = some closing) : ∃ k, IsClosing text k := by
  have hex : ∃ k, 4 ≤ k ∧ text[k]? = some closing := ⟨k, hk, h⟩
  obtain ⟨hfour, hcloses⟩ := Nat.find_spec hex
  exact ⟨Nat.find hex, hfour, hcloses, fun j hj hlt he ↦ Nat.find_min hex hlt ⟨hj, he⟩⟩

/-- **Every text has a verdict.** -/
theorem exists_verdict (text : List Text) : ∃ fs, Verdict text fs := by
  refine (begins_or_exists_verdict text (Nat.le_refl 4)).elim (fun hbegins ↦ ?_) id
  by_cases hclosed : ∃ k, 4 ≤ k ∧ text[k]? = some closing
  · obtain ⟨k, hk, h⟩ := hclosed
    obtain ⟨k, hclosing⟩ := exists_isClosing hk h
    by_cases hauthors : IsMalformed (authorsBefore text k)
    · exact ⟨_, .authors hbegins hclosing hauthors⟩
    · exact ⟨_, .clean hbegins hclosing hauthors⟩
  · exact ⟨_, .unclosed hbegins fun k hk he ↦ hclosed ⟨k, hk, he⟩⟩

/-! ### The checker and the verdicts -/

/-- The tests are the conditions on the first four lines. -/
theorem exists_test (hn : n < 4) :
    ∃ test, tests.drop n = test :: tests.drop (n + 1) ∧ ∀ line, test line = true ↔ Fits n line := by
  match n, hn with
  | 0, _ => exact ⟨_, rfl, fun line ↦ beq_iff_eq⟩
  | 1, _ => exact ⟨_, rfl, fun line ↦ isCopyright_iff⟩
  | 2, _ => exact ⟨_, rfl, fun line ↦ beq_iff_eq⟩
  | 3, _ => exact ⟨_, rfl, fun line ↦ List.isPrefixOf_iff_prefix⟩

theorem drop_of_getElem? (h : text[n]? = some line) : text.drop n = line :: text.drop (n + 1) := by
  obtain ⟨hlt, rfl⟩ := List.getElem?_eq_some_iff.mp h
  exact List.drop_eq_getElem_cons hlt

/-- The lines from one on, taken apart at a later one. -/
theorem drop_eq_take_append (h : text[k]? = some line) (hn : n ≤ k) :
    text.drop n = (text.take k).drop n ++ line :: text.drop (k + 1) := by
  obtain ⟨hlt, -⟩ := List.getElem?_eq_some_iff.mp h
  have hlength : n ≤ (text.take k).length := by
    rwa [List.length_take_of_le (Nat.le_of_lt hlt)]
  rw [← drop_of_getElem? h, ← List.drop_append_of_le_length hlength, List.take_append_drop]

/-- **The tests go on behind the lines that are what they have to be.** -/
theorem deviation?_of_begins (hn : n ≤ 4) (h : Begins text n) :
    deviation? 1 tests text = deviation? (n + 1) (tests.drop n) (text.drop n) := by
  induction n with
  | zero => rfl
  | succ n ih =>
    obtain ⟨line, hline, hfits⟩ := h n (Nat.lt_succ_self n)
    obtain ⟨test, htests, htest⟩ := exists_test (Nat.lt_of_succ_le hn)
    rw [ih (by omega) (h.mono (Nat.le_succ n)), htests, drop_of_getElem? hline, deviation?,
      if_pos ((htest line).mpr hfits)]

theorem deviation?_of_deviates (hn : n < 4) (h : Begins text n) (hline : text[n]? = some line)
    (hfits : ¬ Fits n line) : deviation? 1 tests text = some (n + 1) := by
  obtain ⟨test, htests, htest⟩ := exists_test hn
  rw [deviation?_of_begins (Nat.le_of_lt hn) h, htests, drop_of_getElem? hline, deviation?,
    if_neg (mt (htest line).mp hfits)]

theorem deviation?_of_ends (hn : text.length < 4) (h : Begins text text.length) :
    deviation? 1 tests text = some (max text.length 1) := by
  obtain ⟨test, htests, -⟩ := exists_test hn
  rw [deviation?_of_begins (Nat.le_of_lt hn) h, htests, List.drop_length, deviation?,
    Nat.add_sub_cancel]

theorem deviation?_of_begins_four (h : Begins text 4) : deviation? 1 tests text = none :=
  deviation?_of_begins (Nat.le_refl 4) h

theorem beforeClosing?_append {before : List Text} (h : closing ∉ before) (after : List Text) :
    beforeClosing? (before ++ closing :: after) = some before := by
  induction before with
  | nil => exact if_pos rfl
  | cons line before ih =>
    rw [List.mem_cons, not_or] at h
    rw [List.cons_append, beforeClosing?, if_neg (Ne.symm h.1), ih h.2]
    rfl

theorem beforeClosing?_eq_none {lines : List Text} (h : closing ∉ lines) :
    beforeClosing? lines = none := by
  induction lines with
  | nil => rfl
  | cons line lines ih =>
    rw [List.mem_cons, not_or] at h
    rw [beforeClosing?, if_neg (Ne.symm h.1), ih h.2]
    rfl

/-- The lines from the fourth on, cut at the closing one. -/
theorem IsClosing.beforeClosing? (h : IsClosing text k) :
    beforeClosing? (text.drop 4) = some ((text.take k).drop 4) := by
  have hbefore : closing ∉ (text.take k).drop 4 := by
    rw [List.mem_iff_getElem?]
    rintro ⟨i, hi⟩
    rw [List.getElem?_drop, List.getElem?_take] at hi
    split at hi
    · next hlt => exact h.first (4 + i) (Nat.le_add_right 4 i) hlt hi
    · exact absurd hi nofun
  rw [drop_eq_take_append h.closes h.four_le, beforeClosing?_append hbefore]

theorem areMalformed_iff (authors : Text) : areMalformed authors = true ↔ IsMalformed authors := by
  have hperiod : Text.endsWith authors "." = true ↔ authors.getLast? = some '.' := by
    rw [Text.endsWith, List.isSuffixOf_iff_suffix, List.getLast?_eq_some_iff]
    exact exists_congr fun _ ↦ eq_comm
  rw [areMalformed, Bool.or_eq_true, Bool.or_eq_true, List.isEmpty_iff, hperiod, Text.occursIn_iff,
    or_assoc, IsMalformed]

/-- The authors are those from the fourth line on. -/
theorem authors_eq {first : Text} (hfirst : text[3]? = some first) (hmark : authorsMark <+: first) :
    authors first ((text.take k).drop 4) = authorsBefore text k := by
  obtain ⟨rest, rfl⟩ := hmark
  rw [authors, authorsBefore, hfirst, Option.getD_some, List.drop_left, Text.without,
    Text.after?_eq_some_iff.mpr rfl, Option.getD_some]

/-- **Behind four lines that are what they have to be**, the checker goes on to the closing line. -/
theorem findings_of_begins {lines : List Text} (hbegins : Begins (lines.map Text.dropEnding) 4) :
    ∃ first, (lines.map Text.dropEnding)[3]? = some first ∧ authorsMark <+: first ∧
      findings lines = (beforeClosing? ((lines.map Text.dropEnding).drop 4)).elim
        [.plain lines.length .header]
        fun more ↦ if areMalformed (authors first more) then [.plain 4 .authors] else [] := by
  obtain ⟨first, hfirst, hmark⟩ := hbegins 3 (by decide)
  refine ⟨first, hfirst, hmark, ?_⟩
  rw [findings, deviation?_of_begins_four hbegins, drop_of_getElem? hfirst, List.length_map]
  dsimp only
  cases beforeClosing? ((lines.map Text.dropEnding).drop 4) with
  | none => rfl
  | some more => rfl

/-- Where there is a closing line, the authors decide. -/
theorem findings_of_isClosing {lines : List Text} (hbegins : Begins (lines.map Text.dropEnding) 4)
    (hclosing : IsClosing (lines.map Text.dropEnding) k) :
    findings lines =
      if areMalformed (authorsBefore (lines.map Text.dropEnding) k) then [.plain 4 .authors] else [] := by
  obtain ⟨first, hfirst, hmark, hfindings⟩ := findings_of_begins hbegins
  rw [hfindings, hclosing.beforeClosing?, Option.elim_some, authors_eq hfirst hmark]

/-- **The checker finds what a verdict says.** -/
theorem Verdict.findings_eq {lines : List Text} (h : Verdict (lines.map Text.dropEnding) fs) :
    findings lines = fs := by
  cases h with
  | deviates hn hbegins hline hfits =>
    rw [findings, deviation?_of_deviates hn hbegins hline hfits]
  | ends hn hbegins => rw [findings, deviation?_of_ends hn hbegins]
  | unclosed hbegins hopen =>
    have hnone : closing ∉ (lines.map Text.dropEnding).drop 4 := by
      rw [List.mem_iff_getElem?]
      rintro ⟨i, hi⟩
      rw [List.getElem?_drop] at hi
      exact hopen (4 + i) (Nat.le_add_right 4 i) hi
    obtain ⟨first, -, -, hfindings⟩ := findings_of_begins hbegins
    rw [hfindings, beforeClosing?_eq_none hnone, Option.elim_none, List.length_map]
  | authors hbegins hclosing hauthors =>
    rw [findings_of_isClosing hbegins hclosing, if_pos ((areMalformed_iff _).mpr hauthors)]
  | clean hbegins hclosing hauthors =>
    rw [findings_of_isClosing hbegins hclosing, if_neg (mt (areMalformed_iff _).mp hauthors)]

/-- **The findings of a header are what its verdict says**, and this is one verdict only. -/
theorem findings_eq_iff_verdict {lines : List Text} :
    findings lines = fs ↔ Verdict (lines.map Text.dropEnding) fs := by
  constructor
  · intro h
    obtain ⟨fs', hverdict⟩ := exists_verdict (lines.map Text.dropEnding)
    exact h ▸ hverdict.findings_eq ▸ hverdict
  · exact Verdict.findings_eq

/-- Where no line deviates, the first four are what they have to be. -/
theorem begins_of_rule_ne {lines : List Text} (h : ∀ f ∈ findings lines, f.rule ≠ .header) :
    Begins (lines.map Text.dropEnding) 4 := by
  have hverdict := findings_eq_iff_verdict.mp (Eq.refl (findings lines))
  generalize findings lines = fs at h hverdict
  cases hverdict with
  | deviates => exact absurd rfl (h _ (List.mem_singleton_self _))
  | ends => exact absurd rfl (h _ (List.mem_singleton_self _))
  | unclosed => exact absurd rfl (h _ (List.mem_singleton_self _))
  | authors hbegins => exact hbegins
  | clean hbegins => exact hbegins

/-! ### What follows the header -/

section Agreement

variable {text' : List Text} {m : Nat}

theorem Begins.congr (h : Begins text n) (hsame : ∀ i < n, text'[i]? = text[i]?) :
    Begins text' n :=
  fun i hi ↦ (h i hi).imp fun _ hline ↦ ⟨(hsame i hi).trans hline.1, hline.2⟩

theorem IsClosing.congr (h : IsClosing text k) (hsame : ∀ i ≤ k, text'[i]? = text[i]?) :
    IsClosing text' k where
  four_le := h.four_le
  closes := (hsame k (Nat.le_refl k)).trans h.closes
  first j hj hlt he := h.first j hj hlt ((hsame j (Nat.le_of_lt hlt)).symm.trans he)

/-- **None of the first four lines closes the header**, not even after blanks. -/
theorem trim_ne_closing_of_fits (hn : n < 4) (hfits : Fits n line) : Text.trim line ≠ closing := by
  -- each of them begins with a character that is neither blank nor the one the closing line begins with
  have hhead : ∃ c, line.head? = some c ∧ Text.isBlank c = false ∧ c ≠ '-' := by
    match n, hn, hfits with
    | 0, _, hfits =>
      subst hfits
      exact ⟨'/', rfl, by decide⟩
    | 1, _, hfits =>
      obtain ⟨years, name, -, -, rfl⟩ := hfits
      exact ⟨'C', rfl, by decide⟩
    | 2, _, hfits =>
      subst hfits
      exact ⟨'R', rfl, by decide⟩
    | 3, _, hfits =>
      obtain ⟨r, rfl⟩ := hfits
      exact ⟨'A', rfl, by decide⟩
  obtain ⟨c, hc, hblank, hne⟩ := hhead
  intro he
  have htrim := Text.head?_trim fun d hd ↦ Option.some.inj (hc.symm.trans hd) ▸ hblank
  rw [he, hc] at htrim
  exact hne (Option.some.inj htrim).symm

/-- **Lines that are what they have to be** come before any closing line. -/
theorem Begins.le_of_closes (h : Begins text n) (hn : n ≤ 4) (hm : text[m]? = some closing) :
    n ≤ m := by
  by_contra hlt
  obtain ⟨line, hline, hfits⟩ := h m (by omega)
  obtain rfl := Option.some.inj (hm.symm.trans hline)
  exact trim_ne_closing_of_fits (by omega) hfits (by decide)

/-- **A verdict does not look beyond a closing line.** -/
theorem Verdict.of_take (h : Verdict text fs) (hm : text[m]? = some closing)
    (htake : text'.take (m + 1) = text.take (m + 1)) : Verdict text' fs := by
  have hsame : ∀ i ≤ m, text'[i]? = text[i]? := by
    intro i hi
    rw [← List.getElem?_take_of_lt (Nat.lt_succ_of_le hi), htake,
      List.getElem?_take_of_lt (Nat.lt_succ_of_le hi)]
  -- the first closing line does not come after the other one, so all up to it is the same
  have hclosed {k : Nat} (hclosing : IsClosing text k) (hfour : 4 ≤ m) :
      IsClosing text' k ∧ authorsBefore text' k = authorsBefore text k := by
    have hle : k ≤ m := by
      by_contra hlt
      exact hclosing.first m hfour (Nat.lt_of_not_le hlt) hm
    have hfour := hclosing.four_le
    have htake' : text'.take k = text.take k := by
      have h := congrArg (List.take k) htake
      rwa [List.take_take, List.take_take, Nat.min_eq_left (by omega)] at h
    refine ⟨hclosing.congr fun i hi ↦ hsame i (hi.trans hle), ?_⟩
    rw [authorsBefore, authorsBefore, hsame 3 (by omega), htake']
  cases h with
  | deviates hn hbegins hline hfits =>
    have hle := hbegins.le_of_closes (Nat.le_of_lt hn) hm
    exact .deviates hn (hbegins.congr fun i hi ↦ hsame i (by omega)) ((hsame _ hle).trans hline) hfits
  | ends hn hbegins =>
    have hle := hbegins.le_of_closes (Nat.le_of_lt hn) hm
    obtain ⟨hlt, -⟩ := List.getElem?_eq_some_iff.mp hm
    exact absurd hlt (by omega)
  | unclosed hbegins hopen =>
    exact absurd hm (hopen m (hbegins.le_of_closes (Nat.le_refl 4) hm))
  | authors hbegins hclosing hauthors =>
    have hfour := hbegins.le_of_closes (Nat.le_refl 4) hm
    obtain ⟨hclosing', he⟩ := hclosed hclosing hfour
    exact .authors (hbegins.congr fun i hi ↦ hsame i (by omega)) hclosing' (he ▸ hauthors)
  | clean hbegins hclosing hauthors =>
    have hfour := hbegins.le_of_closes (Nat.le_refl 4) hm
    obtain ⟨hclosing', he⟩ := hclosed hclosing hfour
    exact .clean (hbegins.congr fun i hi ↦ hsame i (by omega)) hclosing' (he ▸ hauthors)

end Agreement

/-! ### What the checker decides -/

/-- **The checker decides the grammar of headers, and looks no further.** Its findings are what the
one verdict on the lines says, of which there is one at most. Where a line closes the header, other
lines after it make no difference. -/
theorem findings_iff_verdict_and_local (lines : List Text) :
    (∀ fs, findings lines = fs ↔ Verdict (lines.map Text.dropEnding) fs) ∧
      (findings lines).length ≤ 1 ∧
      ∀ m after, (lines.map Text.dropEnding)[m]? = some closing →
        findings (lines.take (m + 1) ++ after) = findings lines := by
  refine ⟨fun fs ↦ findings_eq_iff_verdict, ?_, fun m after hm ↦ ?_⟩
  · rcases findings_eq lines with he | ⟨n, -, rule, -, he⟩ <;> rw [he]
    · exact Nat.zero_le 1
    · exact Nat.le_refl 1
  · -- the lines up to the closing one are there, and they stay
    obtain ⟨hlt, -⟩ := List.getElem?_eq_some_iff.mp hm
    rw [List.length_map] at hlt
    have htake : (lines.take (m + 1) ++ after).take (m + 1) = lines.take (m + 1) :=
      List.take_left' (List.length_take_of_le hlt)
    have hverdict := findings_eq_iff_verdict.mp (Eq.refl (findings lines))
    refine (hverdict.of_take hm ?_).findings_eq
    rw [← List.map_take, htake, List.map_take]

/-- A header whose authors go on over a line. -/
def brokenHeader : List Text :=
  ["/-\r\n", "Copyright (c) 2023-2024 A B. All rights reserved.\n",
    "Released under Apache 2.0 license as described in the file LICENSE.\n", "Authors: A and\n",
    "  B\n", "-/\n", "import C"]

/-- An "and" is found over the end of a line, whatever follows the header. -/
theorem verdict_and_local_brokenHeader :
    Verdict (brokenHeader.map Text.dropEnding) [.plain 4 .authors] ∧
      (brokenHeader.map Text.dropEnding)[5]? = some closing ∧
      findings (brokenHeader.take 6 ++ ["-/".toList]) = findings brokenHeader :=
  have h := findings_iff_verdict_and_local brokenHeader
  ⟨(h.1 _).mp (by decide), by decide, h.2.2 5 _ (by decide)⟩

end StyleLinter.Check.Header
