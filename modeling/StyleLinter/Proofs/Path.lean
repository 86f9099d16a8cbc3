import StyleLinter.Path
import StyleLinter.Proofs.Text.Pieces

/-!
# Paths and their texts

A path that a text spells is **normal**: it has at most two leading slashes, and its parts are names
or double dots. Writing a normal path and reading it again gives the path (`ofText_toText`), so
**normal paths with the same text are equal** (`eq_of_toText_eq`), and a list that keeps the texts
of paths keeps the paths. A relative path has a text that begins with no slash, and the other way
round.

`below` adds names to a path. The text of a path begins the texts of what is below it
(`toText_prefix_below`), and a path that **leads down** is one that only adds names to the path it
is taken from.
-/

namespace StyleLinter.Path

variable {p q : Path}

theorem eq_of_parts_eq (hslashes : p.slashes = q.slashes) (hparts : p.parts = q.parts) : p = q :=
  Path.mk.injEq .. ▸ ⟨hslashes, hparts⟩

theorem isPart_iff {t : Text} : isPart t = true ↔ t ≠ [] ∧ t ≠ "." := by
  simp [isPart]

/-- What a name without dots begins is a part of a path. -/
theorem isPart_append {t : Text} (ht : t ≠ []) (hdot : '.' ∉ t) (u : Text) :
    isPart (t ++ u) = true := by
  refine isPart_iff.mpr ⟨List.append_ne_nil_of_left_ne_nil ht u, fun h ↦ ?_⟩
  obtain ⟨c, hc⟩ := List.exists_mem_of_ne_nil t ht
  have hmem : c ∈ t ++ u := List.mem_append_left u hc
  rw [h] at hmem
  obtain rfl : c = '.' := List.mem_singleton.mp hmem
  exact hdot hc

theorem isPart_of_no_dot {t : Text} (ht : t ≠ []) (hdot : '.' ∉ t) : isPart t = true :=
  List.append_nil t ▸ isPart_append ht hdot []

/-- Is the path in normal form? -/
structure IsNormal (p : Path) : Prop where
  /-- Three leading slashes and more count as one. -/
  slashes : p.slashes ≤ 2
  /-- There are neither empty parts nor single dots. -/
  isPart : ∀ t ∈ p.parts, isPart t = true
  /-- A slash ends a part. -/
  no_slash : ∀ t ∈ p.parts, '/' ∉ t

/-- **The path that a text spells is normal.** -/
theorem isNormal_ofText (t : Text) : (ofText t).IsNormal where
  slashes := by
    unfold ofText
    dsimp only
    split <;> omega
  isPart _ h := (List.mem_filter.mp h).2
  no_slash _ h := Text.not_mem_of_mem_pieces (List.mem_filter.mp h).1

/-- Paths that texts spell are normal. -/
theorem forall_isNormal_ofText (ts : List Text) : ∀ p ∈ ts.map ofText, p.IsNormal :=
  List.forall_mem_map.mpr fun t _ ↦ isNormal_ofText t

theorem IsNormal.child (hp : p.IsNormal) {name : Text} (hname : Path.isPart name = true)
    (hslash : '/' ∉ name) : (p.child name).IsNormal where
  slashes := hp.slashes
  isPart t ht := by
    rcases List.mem_append.mp ht with ht | ht
    · exact hp.isPart t ht
    · rw [List.mem_singleton.mp ht]
      exact hname
  no_slash t ht := by
    rcases List.mem_append.mp ht with ht | ht
    · exact hp.no_slash t ht
    · rw [List.mem_singleton.mp ht]
      exact hslash

/-- What follows the leading slashes of a normal path begins with no slash. -/
theorem head?_joinWith (hp : p.IsNormal) : (Text.joinWith "/" p.parts).head? ≠ some '/' := by
  cases hparts : p.parts with
  | nil => exact nofun
  | cons t ts =>
    have hmem : t ∈ p.parts := hparts ▸ List.mem_cons_self
    obtain ⟨c, r, rfl⟩ := List.exists_cons_of_ne_nil ((isPart_iff.mp (hp.isPart t hmem)).1)
    have hc : c ≠ '/' := fun h ↦ hp.no_slash _ hmem (h ▸ List.mem_cons_self)
    by_cases hts : ts = []
    · subst hts
      exact fun h ↦ hc (Option.some.inj h)
    · rw [Text.joinWith_cons hts]
      exact fun h ↦ hc (Option.some.inj h)

theorem slashes_ofText {n : Nat} (hn : n ≤ 2) {t : Text} (ht : t.head? ≠ some '/') :
    (ofText (List.replicate n '/' ++ t)).slashes = n := by
  have hc : ∀ {c r}, t = c :: r → c ≠ '/' := by
    rintro c r rfl rfl
    exact ht rfl
  obtain rfl | rfl | rfl : n = 0 ∨ n = 1 ∨ n = 2 := by omega
  · cases t with
    | nil => rfl
    | cons c r => simp [ofText, hc rfl]
  · cases t with
    | nil => rfl
    | cons c r => simp [ofText, hc rfl]
  · cases t with
    | nil => rfl
    | cons c r => simp [ofText, hc rfl]

theorem parts_ofText (hp : p.IsNormal) (n : Nat) :
    (ofText (List.replicate n '/' ++ Text.joinWith "/" p.parts)).parts = p.parts := by
  unfold ofText
  induction n with
  | zero =>
    cases hparts : p.parts with
    | nil => rfl
    | cons t ts =>
      have hpieces := Text.pieces_joinWith (hparts ▸ List.cons_ne_nil t ts) hp.no_slash
      rw [← hparts]
      exact (congrArg _ hpieces).trans (List.filter_eq_self.mpr hp.isPart)
  | succ n ih =>
    rw [List.replicate_succ, List.cons_append]
    dsimp only at ih ⊢
    rw [Text.pieces_cons_sep]
    exact ih

theorem toText_of_parts (h : p.parts ≠ []) :
    p.toText = List.replicate p.slashes '/' ++ Text.joinWith "/" p.parts := by
  rw [toText, if_neg fun hp ↦ h hp.2]

/-- **A normal path is read back from its text.** -/
theorem ofText_toText (hp : p.IsNormal) : ofText p.toText = p := by
  rcases p with ⟨slashes, parts⟩
  unfold toText
  split
  · next h =>
    obtain ⟨rfl, rfl⟩ : slashes = 0 ∧ parts = [] := h
    rfl
  · have hslashes := slashes_ofText hp.slashes (head?_joinWith hp)
    have hparts := parts_ofText hp slashes
    show (⟨_, _⟩ : Path) = ⟨slashes, parts⟩
    exact eq_of_parts_eq hslashes hparts

/-- A name spells itself. -/
theorem ofText_of_isPart {t : Text} (hpart : isPart t = true) (hslash : '/' ∉ t) :
    ofText t = ⟨0, [t]⟩ := by
  have hp : IsNormal ⟨0, [t]⟩ :=
    ⟨Nat.zero_le _, fun u hu ↦ List.mem_singleton.mp hu ▸ hpart,
      fun u hu ↦ List.mem_singleton.mp hu ▸ hslash⟩
  have hread := ofText_toText hp
  rwa [toText_of_parts (List.cons_ne_nil _ _)] at hread

/-- **Normal paths with the same text are equal.** -/
theorem eq_of_toText_eq (hp : p.IsNormal) (hq : q.IsNormal) (h : p.toText = q.toText) : p = q := by
  rw [← ofText_toText hp, h, ofText_toText hq]

/-- Different normal paths have different texts. -/
theorem nodup_toText {ps : List Path} (hnormal : ∀ p ∈ ps, p.IsNormal) (hnd : ps.Nodup) :
    (ps.map (·.toText)).Nodup := by
  rw [List.Nodup, List.pairwise_map]
  exact hnd.imp_of_mem fun hp hq hne he ↦ hne (eq_of_toText_eq (hnormal _ hp) (hnormal _ hq) he)

/-! ### Spellings -/

/-- Is this the text of the path that it spells? -/
def IsCanonical (t : Text) : Prop := (ofText t).toText = t

instance (t : Text) : Decidable (IsCanonical t) := inferInstanceAs (Decidable (_ = _))

theorem IsNormal.isCanonical (hp : p.IsNormal) : IsCanonical p.toText :=
  congrArg toText (ofText_toText hp)

/-- The parts of a path are among the pieces of what follows its leading slashes. -/
theorem exists_eq_replicate_append (t : Text) : ∃ rest,
    t = List.replicate (ofText t).slashes '/' ++ rest ∧
      (ofText t).parts.Sublist (Text.pieces '/' rest) := by
  have hskip (r : Text) :
      ((Text.pieces '/' ('/' :: r)).filter isPart).Sublist (Text.pieces '/' r) := by
    have hfirst : isPart [] = false := rfl
    rw [Text.pieces_cons_sep, List.filter_cons_of_neg (by rw [hfirst]; exact Bool.false_ne_true)]
    exact List.filter_sublist
  unfold ofText
  dsimp only
  split
  · next r => exact ⟨'/' :: '/' :: r, rfl, hskip _⟩
  · next r _ =>
    have hfirst : (Text.pieces '/' ('/' :: '/' :: r)).filter isPart =
        (Text.pieces '/' ('/' :: r)).filter isPart := by
      rw [Text.pieces_cons_sep]
      rfl
    exact ⟨r, rfl, hfirst ▸ hskip r⟩
  · next r _ _ => exact ⟨r, rfl, hskip r⟩
  · exact ⟨t, rfl, List.filter_sublist⟩

theorem slashes_ofText_cons_ne_zero (r : Text) : (ofText ('/' :: r)).slashes ≠ 0 := by
  unfold ofText
  dsimp only
  split
  · exact Nat.one_ne_zero
  · exact Nat.succ_ne_zero 1
  · exact Nat.one_ne_zero
  · next h => exact absurd rfl (h r)

/-- A text that spells the current directory has a dot, if it has anything. -/
theorem dot_mem_of_ofText_eq_here {t : Text} (ht : t ≠ []) (h : ofText t = here) : '.' ∈ t := by
  obtain ⟨c, r, rfl⟩ := List.exists_cons_of_ne_nil ht
  have hslash : c ≠ '/' := by
    rintro rfl
    exact slashes_ofText_cons_ne_zero r (congrArg slashes h)
  obtain ⟨q, hq⟩ : ∃ q, c :: q ∈ Text.pieces '/' (c :: r) := by
    rw [Text.pieces, if_neg hslash]
    split
    · exact ⟨[], List.mem_singleton_self _⟩
    · exact ⟨_, List.mem_cons_self⟩
  -- the first piece is not empty, and it is no part of the path
  have hpart := List.filter_eq_nil_iff.mp (congrArg parts h) _ hq
  have hdot : c :: q = ".".toList := Decidable.byContradiction fun hne ↦
    hpart (isPart_iff.mpr ⟨List.cons_ne_nil c q, hne⟩)
  exact (List.cons.inj hdot).1 ▸ List.mem_cons_self

/-- **The text of a path takes nothing but characters of the text that spells it**, in their
order. -/
theorem toText_ofText_sublist {t : Text} (ht : t ≠ []) : (ofText t).toText.Sublist t := by
  rw [toText]
  split
  · next h =>
    have hdot := dot_mem_of_ofText_eq_here ht (eq_of_parts_eq h.1 h.2)
    exact List.singleton_sublist.mpr hdot
  · obtain ⟨rest, hrest, hparts⟩ := exists_eq_replicate_append t
    have hjoin : (Text.joinWith "/" (ofText t).parts).Sublist rest := by
      have hpieces : Text.joinWith "/" (Text.pieces '/' rest) = rest := Text.joinWith_pieces '/' rest
      exact hpieces ▸ Text.joinWith_sublist "/" hparts
    have happend := (List.Sublist.refl (List.replicate (ofText t).slashes '/')).append hjoin
    rwa [← hrest] at happend

/-! ### Relative paths -/

/-- Is the path in normal form, and relative? -/
structure IsRelative (p : Path) : Prop where
  /-- It is in normal form. -/
  isNormal : p.IsNormal
  /-- It has no leading slashes. -/
  slashes : p.slashes = 0

/-- Only the current directory has a relative path without parts. -/
theorem IsRelative.parts_ne_nil (hp : p.IsRelative) (hne : p ≠ here) : p.parts ≠ [] :=
  fun h ↦ hne (eq_of_parts_eq hp.slashes h)

/-- A text that begins with no slash spells a relative path. -/
theorem isRelative_ofText {t : Text} (ht : t.head? ≠ some '/') : (ofText t).IsRelative :=
  ⟨isNormal_ofText t, slashes_ofText (Nat.zero_le 2) ht⟩

/-- The text of a relative path begins with no slash. -/
theorem IsRelative.head?_toText (hp : p.IsRelative) : p.toText.head? ≠ some '/' := by
  rw [toText, hp.slashes]
  split
  · exact nofun
  · exact head?_joinWith hp.isNormal

/-- What begins the text of a relative path spells a relative path. -/
theorem IsRelative.of_prefix (hp : p.IsRelative) {t : Text} (ht : t <+: p.toText) :
    (ofText t).IsRelative := by
  refine isRelative_ofText fun hhead ↦ hp.head?_toText ?_
  obtain ⟨r, rfl⟩ := List.head?_eq_some_iff.mp hhead
  obtain ⟨u, hu⟩ := ht
  rw [← hu]
  rfl

/-- **The parts of a relative path are the pieces of its text.** -/
theorem IsRelative.pieces_toText (hp : p.IsRelative) (hparts : p.parts ≠ []) :
    Text.pieces '/' p.toText = p.parts := by
  rw [toText_of_parts hparts, hp.slashes]
  exact Text.pieces_joinWith hparts hp.isNormal.no_slash

/-- The text of a path is not empty. -/
theorem toText_ne_nil (hp : p.IsNormal) : p.toText ≠ [] := by
  intro hnil
  -- the empty text spells the current directory, which is written as a dot
  have hhere : p = here := by
    rw [← ofText_toText hp, hnil]
    rfl
  rw [hhere] at hnil
  exact absurd hnil (List.cons_ne_nil _ _)

/-- An absolute path forgets where it is taken from. -/
theorem parts_join (p q : Path) :
    (p / q).parts = (if q.isAbsolute then [] else p.parts) ++ q.parts := by
  show (p.join q).parts = _
  rw [join]
  split <;> rfl

/-! ### The characters of a path -/

theorem mem_toText {c : Char} (h : c ∈ p.toText) : c = '.' ∨ c = '/' ∨ ∃ part ∈ p.parts, c ∈ part := by
  unfold toText at h
  split at h
  · exact .inl (List.mem_singleton.mp h)
  · rcases List.mem_append.mp h with h | h
    · exact .inr (.inl (List.eq_of_mem_replicate h))
    · exact .inr ((Text.mem_joinWith h).imp_left List.mem_singleton.mp)

theorem not_mem_toText {c : Char} (hdot : c ≠ '.') (hslash : c ≠ '/')
    (h : ∀ part ∈ p.parts, c ∉ part) : c ∉ p.toText := by
  intro hmem
  rcases mem_toText hmem with rfl | rfl | ⟨part, hpart, hc⟩
  · exact hdot rfl
  · exact hslash rfl
  · exact h part hpart hc

theorem mem_of_mem_parts_ofText {c : Char} {t part : Text} (h : part ∈ (ofText t).parts)
    (hc : c ∈ part) : c ∈ t :=
  Text.mem_of_mem_pieces (List.mem_filter.mp h).1 hc

/-- What a text has besides dots and slashes is in the parts of the path that it spells. -/
theorem exists_mem_parts_ofText {t : Text} {c : Char} (hdot : c ≠ '.') (hslash : c ≠ '/')
    (h : c ∈ t) : ∃ part ∈ (ofText t).parts, c ∈ part := by
  rw [← Text.joinWith_pieces '/' t] at h
  rcases Text.mem_joinWith h with h | ⟨part, hpart, hc⟩
  · exact absurd (List.mem_singleton.mp h) hslash
  · refine ⟨part, List.mem_filter.mpr ⟨hpart, isPart_iff.mpr ⟨List.ne_nil_of_mem hc, ?_⟩⟩, hc⟩
    rintro rfl
    exact hdot (List.mem_singleton.mp hc)

theorem mem_toText_of_mem {c : Char} {part : Text} (h : part ∈ p.parts) (hc : c ∈ part) :
    c ∈ p.toText := by
  rw [toText_of_parts (List.ne_nil_of_mem h)]
  exact List.mem_append_right _ (Text.mem_joinWith_of_mem h hc)

/-- **The text of a joined path has no characters of its own**, apart from dots and slashes. -/
theorem not_mem_toText_join {c : Char} {t : Text} (hdot : c ≠ '.') (hslash : c ≠ '/')
    (hp : c ∉ p.toText) (ht : c ∉ t) : c ∉ (p / ofText t).toText := by
  refine not_mem_toText hdot hslash fun part hpart hc ↦ ?_
  rw [parts_join] at hpart
  rcases List.mem_append.mp hpart with hpart | hpart
  · split at hpart
    · exact absurd hpart List.not_mem_nil
    · exact hp (mem_toText_of_mem hpart hc)
  · exact ht (mem_of_mem_parts_ofText hpart hc)

theorem mem_allParts {c : Char} {part : Text} (h : part ∈ p.allParts) (hc : c ∈ part) :
    c = '/' ∨ part ∈ p.parts := by
  rcases List.mem_append.mp h with h | h
  · split at h
    · rw [List.mem_singleton.mp h] at hc
      exact .inl (List.eq_of_mem_replicate hc)
    · exact absurd h List.not_mem_nil
  · exact .inr h

/-! ### Paths below a path -/

/-- The path some names further down. -/
def below (p : Path) (names : List Text) : Path := ⟨p.slashes, p.parts ++ names⟩

theorem below_below (p : Path) (names names' : List Text) :
    (p.below names).below names' = p.below (names ++ names') := by
  rw [below, below, below, List.append_assoc]

theorem child_eq_below (p : Path) (name : Text) : p.child name = p.below [name] := rfl

theorem child_below (p : Path) (name : Text) (names : List Text) :
    (p.child name).below names = p.below (name :: names) := below_below p [name] names

theorem below_injective (p : Path) {names names' : List Text} (h : p.below names = p.below names') :
    names = names' :=
  List.append_cancel_left (Path.mk.inj h).2

theorem below_ne_here {names : List Text} (h : names ≠ []) (p : Path) : p.below names ≠ here := by
  intro he
  exact h (List.append_eq_nil_iff.mp (Path.mk.inj he).2).2

/-- A relative path adds its parts. -/
theorem join_eq_below (h : q.slashes = 0) (p : Path) : p / q = p.below q.parts := by
  have habsolute : q.isAbsolute = false := by rw [isAbsolute, h, bne_self_eq_false]
  show p.join q = p.below q.parts
  rw [join, habsolute, if_neg Bool.false_ne_true, below]

theorem join_below (h : q.slashes = 0) (p : Path) (names : List Text) :
    p / q.below names = (p / q).below names := by
  have hbelow : (q.below names).slashes = 0 := h
  rw [join_eq_below hbelow, join_eq_below h, below_below]
  rfl

/-- **The text of a path begins the texts of what is below it.** -/
theorem toText_prefix_below (hp : p ≠ here) (names : List Text) :
    p.toText <+: (p.below names).toText := by
  have hne : ¬ (p.slashes = 0 ∧ p.parts = []) := fun h ↦ hp (by rw [here, ← h.1, ← h.2])
  have hne' : ¬ ((p.below names).slashes = 0 ∧ (p.below names).parts = []) := fun h ↦
    hne ⟨h.1, (List.append_eq_nil_iff.mp h.2).1⟩
  rw [toText, if_neg hne, toText, if_neg hne', below]
  refine (List.prefix_append_right_inj _).mpr ?_
  by_cases hparts : p.parts = []
  · rw [hparts]
    exact List.nil_prefix
  · by_cases hnames : names = []
    · exact ⟨[], by rw [hnames, List.append_nil, List.append_nil]⟩
    · rw [Text.joinWith_append hparts hnames, List.append_assoc]
      exact List.prefix_append _ _

/-- Does the path lead down from where it is taken? -/
structure LeadsDown (p : Path) : Prop where
  /-- It is relative. -/
  slashes : p.slashes = 0
  /-- It names something. -/
  parts_ne_nil : p.parts ≠ []
  /-- It neither stays nor goes up on the way. -/
  parts : ∀ t ∈ p.parts, t ≠ "." ∧ t ≠ ".."

end StyleLinter.Path
