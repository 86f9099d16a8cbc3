import Mathlib.Data.Option.Basic
import StyleLinter.Proofs.Build.Declarations

/-!
# Lines that are comments

A line of a build file whose first characters are `--`, perhaps after blanks, is a comment, and what
it says should make no difference. It does make one when it opens a block that a later line closes:
blocks are taken out before the comments at the ends of lines, so **the lines up to there go with
it** (`leaves`), and their declarations are lost. If nothing is opened that is closed later, the
line may be made empty (`load_of_comment_line`).

Without comments the line is a line of blanks, and the empty line in its place is another one. The
scan for declarations goes through both texts in step (`IsThinned`): a line of blanks is passed
over, or is between the words of a declaration, where any blanks will do.
-/

namespace StyleLinter.Build

namespace Declarations

open Text

variable {t u s b y piece keyword : Text} {c : Char}

/-! ### A line of blanks that is made empty -/

/-- Is the second text the first one, perhaps with a line of blanks made empty? -/
inductive IsThinned : Text → Text → Prop
  | /-- It is the same text. -/
    refl (t : Text) : IsThinned t t
  | /-- One line has no blanks any more. -/
    line {b y : Text} (s : Text) : IsInline b → EndsLine y →
      IsThinned (s ++ '\n' :: (b ++ y)) (s ++ '\n' :: y)

namespace IsThinned

theorem trimStart (h : IsThinned t u) : IsThinned (trimStart t) (trimStart u) := by
  cases h with
  | refl => exact .refl _
  | @line b y s hb hy =>
    unfold Text.trimStart
    rw [List.dropWhile_append, List.dropWhile_append]
    split
    · rw [List.dropWhile_cons_of_pos (by decide), List.dropWhile_cons_of_pos (by decide),
        List.dropWhile_append_of_pos hb.blank]
      exact .refl _
    · exact .line _ hb hy

theorem head? (h : IsThinned t u) : t.head? = u.head? := by
  cases h with
  | refl => rfl
  | line s => cases s <;> rfl

/-- What holds of no line ending is lost at the same place. -/
theorem takeWhile {p : Char → Bool} (hp : p '\n' = false) (h : IsThinned t u) :
    t.takeWhile p = u.takeWhile p ∧ IsThinned (t.dropWhile p) (u.dropWhile p) := by
  cases h with
  | refl => exact ⟨rfl, .refl _⟩
  | @line b y s hb hy =>
    have hstop : ¬ p '\n' = true := by rw [hp]; nofun
    rw [List.takeWhile_append, List.takeWhile_append, List.dropWhile_append, List.dropWhile_append,
      List.takeWhile_cons_of_neg hstop, List.takeWhile_cons_of_neg hstop,
      List.dropWhile_cons_of_neg hstop, List.dropWhile_cons_of_neg hstop]
    refine ⟨rfl, ?_⟩
    split
    · exact .line [] hb hy
    · exact .line _ hb hy

theorem after? (hpiece : '\n' ∉ piece) (h : IsThinned t u) :
    Option.Rel IsThinned (after? piece t) (after? piece u) := by
  cases h with
  | refl => cases Text.after? piece t with
    | none => exact .none
    | some r => exact .some (.refl r)
  | @line b y s hb hy =>
    rw [after?_append_sep hpiece, after?_append_sep hpiece]
    cases Text.after? piece s with
    | none => exact .none
    | some r => exact .some (.line r hb hy)

theorem without (hpiece : '\n' ∉ piece) (h : IsThinned t u) :
    IsThinned (without piece t) (without piece u) := by
  have hafter := h.after? hpiece
  unfold Text.without
  generalize Text.after? piece t = x, Text.after? piece u = y at hafter ⊢
  cases hafter with
  | none => exact h
  | some hr => exact hr

theorem cutAt? (hblank : isBlank c = false) (hline : c ≠ '\n') (h : IsThinned t u) :
    Option.Rel (fun x y ↦ IsThinned x.2 y.2) (cutAt? [c] t) (cutAt? [c] u) := by
  cases h with
  | refl => cases Text.cutAt? [c] t with
    | none => exact .none
    | some x => exact .some (.refl _)
  | @line b y s hb hy =>
    cases hcut : Text.cutAt? [c] s with
    | some x =>
      rw [cutAt?_append_of_some hcut, cutAt?_append_of_some hcut]
      exact .some (.line x.2 hb hy)
    | none =>
      -- neither the blanks nor what is before them has the character
      have hs : c ∉ s := mt (List.singleton_infix_iff c s).mpr (cutAt?_eq_none_iff.mp hcut)
      have hline' : c ∉ s ++ ['\n'] :=
        List.not_mem_append hs (mt List.mem_singleton.mp hline)
      have hb' : c ∉ b := fun hmem ↦ absurd ((hb.blank c hmem).symm.trans hblank) nofun
      have hboth : c ∉ s ++ ['\n'] ++ b := List.not_mem_append hline' hb'
      rw [List.append_cons, List.append_cons _ _ y, ← List.append_assoc (s ++ ['\n']),
        cutAt?_append_of_not_mem hboth, cutAt?_append_of_not_mem hline']
      cases Text.cutAt? [c] y with
      | none => exact .none
      | some x => exact .some (.refl _)

theorem afterAttribute (h : IsThinned t u) : IsThinned (afterAttribute t) (afterAttribute u) := by
  have hafter : Option.Rel IsThinned (Text.after? "@[" t) (Text.after? "@[" u) := h.after? (by decide)
  unfold Declarations.afterAttribute
  generalize Text.after? "@[" t = x, Text.after? "@[" u = y at hafter ⊢
  cases hafter with
  | none => exact h
  | @some r r' hr =>
    have hcut : Option.Rel _ (Text.cutAt? "]" r) (Text.cutAt? "]" r') :=
      hr.cutAt? (by decide) (by decide)
    dsimp only
    generalize Text.cutAt? "]" r = x, Text.cutAt? "]" r' = y at hcut ⊢
    cases hcut with
    | none => exact h
    | some hrest => exact hrest.trimStart

/-- The two texts may declare a name, the same one, and what follows it differs as the texts do. -/
def SameName : Option (Text × Text) → Option (Text × Text) → Prop :=
  Option.Rel fun x y ↦ x.1 = y.1 ∧ IsThinned x.2 y.2

theorem declared? (hkeyword : '\n' ∉ keyword) (h : IsThinned t u) :
    SameName (declared? keyword t) (declared? keyword u) := by
  have hafter := h.after? hkeyword
  unfold Declarations.declared?
  generalize Text.after? keyword t = x, Text.after? keyword u = y at hafter ⊢
  cases hafter with
  | none => exact .none
  | @some r r' hr =>
    have hname : IsThinned (Text.without "«" (Text.trimStart r)) (Text.without "«" (Text.trimStart r')) :=
      hr.trimStart.without (by decide)
    have hsplit := hname.takeWhile (p := isNameChar) (by decide)
    simp only
    rw [hr.head?, hname.head?]
    split
    · exact .some hsplit
    · exact .none

theorem packageAt? (h : IsThinned t u) : SameName (packageAt? t) (packageAt? u) :=
  h.trimStart.declared? (by decide)

theorem libraryAt? (h : IsThinned t u) : SameName (libraryAt? t) (libraryAt? u) :=
  h.trimStart.afterAttribute.declared? (by decide)

end IsThinned

variable {α : Type} {declaration? : Text → Option (Text × Text)} {scan : Text → α}
  {add : Text → α → α}

/-- **A scan finds the same in both texts**, if at the start of a line it does. -/
theorem IsScan.eq_of_thinned (hscan : IsScan declaration? scan add)
    (hsame : ∀ t u, IsThinned t u → IsThinned.SameName (declaration? t) (declaration? u))
    (h : IsThinned t u) : scan t = scan u := by
  -- On the length of the text, since behind a declaration the scan goes on with what is left.
  induction hn : t.length using Nat.strongRecOn generalizing t u with
  | ind n ih =>
    cases h with
    | refl => rfl
    | @line b y s hb hy =>
      cases s with
      | nil =>
        exact (hscan.line_of_blank hb hy).trans (hscan.line_of_blank isInline_nil hy).symm
      | cons c s =>
        have hrest := IsThinned.line s hb hy
        have hlt : (s ++ '\n' :: (b ++ y)).length < n := hn ▸ Nat.lt_succ_self _
        by_cases hc : c = '\n'
        · subst hc
          have hname := hsame _ _ hrest
          have hforward : ∀ {name rest}, _ = some (name, rest) → _ :=
            hscan.forward (t := s ++ '\n' :: (b ++ y))
          rw [List.cons_append, List.cons_append, hscan.line, hscan.line]
          generalize declaration? (s ++ '\n' :: (b ++ y)) = x, declaration? (s ++ '\n' :: y) = x'
            at hname hforward ⊢
          cases hname with
          | none => exact ih _ hlt hrest rfl
          | @some x x' hx =>
            obtain ⟨hname, hbehind⟩ := hx
            obtain ⟨a, e, ha, -⟩ := hforward rfl
            have hlength : x.2.length < (s ++ '\n' :: (b ++ y)).length := by
              rw [ha, List.length_append, List.length_cons]
              omega
            show add x.1 (scan x.2) = add x'.1 (scan x'.2)
            rw [hname, ih _ (hlength.trans hlt) hbehind rfl]
        · rw [List.cons_append, List.cons_append, hscan.skip _ hc, hscan.skip _ hc]
          exact ih _ hlt hrest rfl

/-! ### Blocks that begin in a comment -/

variable {text r rest x : Text} {after : List Text}

/-- Does a block that begins in the text go on behind it? -/
def endsOpen (text : Text) : Bool :=
  match _h : Text.cutAt? "/-" text with
  | none => false
  | some (_, r) =>
    match _h' : Text.cutAt? "-/" r with
    | none => true
    | some (_, rest) => endsOpen rest
termination_by text.length
decreasing_by
  exact length_lt_of_block _h _h'

/-- What follows on the first line on which a block is closed, and the lines after it. -/
def closing? : List Text → Option (Text × List Text)
  | [] => none
  | l :: ls =>
    match Text.cutAt? "-/" l with
    | none => closing? ls
    | some (_, rest) => some (rest, ls)

theorem suffix_of_closing? {more : List Text} (h : closing? after = some (rest, more)) :
    ∃ l, (l :: more) <:+ after ∧ rest <:+ l := by
  induction after with
  | nil => exact absurd h nofun
  | cons l ls ih =>
    rw [closing?] at h
    split at h
    · obtain ⟨l', hmore, hrest⟩ := ih h
      exact ⟨l', hmore.trans (List.suffix_cons l ls), hrest⟩
    · next front rest' hcut =>
      obtain ⟨rfl, rfl⟩ := Prod.mk.inj (Option.some.inj h)
      exact ⟨l, List.suffix_rfl, eq_of_cutAt? hcut ▸ List.suffix_append _ _⟩

/-- The lines that are left of those after a comment with this text. -/
def leaves (text : Text) (after : List Text) : List Text :=
  if endsOpen text then
    match _h : closing? after with
    | none => after
    | some (rest, more) => leaves rest more
  else after
termination_by after.length
decreasing_by
  obtain ⟨l, hl, -⟩ := suffix_of_closing? _h
  exact Nat.lt_of_succ_le hl.length_le

theorem closing?_eq_none_iff : closing? after = none ↔ ∀ l ∈ after, ¬ "-/".toList <:+: l := by
  induction after with
  | nil => exact iff_of_true rfl nofun
  | cons l ls ih =>
    have hpiece : Text.cutAt? "-/" l = none ↔ ¬ "-/".toList <:+: l := cutAt?_eq_none_iff
    rw [closing?, List.forall_mem_cons, ← ih, ← hpiece]
    cases Text.cutAt? "-/" l with
    | none => exact (and_iff_right rfl).symm
    | some x => exact iff_of_false nofun fun h ↦ absurd h.1 nofun

/-- The lines that are left are the last ones. -/
theorem leaves_suffix (text : Text) (after : List Text) : leaves text after <:+ after := by
  fun_induction leaves text after with
  | case1 => exact List.suffix_rfl
  | case2 text after _ rest more hclosing ih =>
    obtain ⟨l, hl, -⟩ := suffix_of_closing? hclosing
    exact ih.trans ((List.suffix_cons l more).trans hl)
  | case3 => exact List.suffix_rfl

/-- **A line is lost exactly if a block goes on behind the comment** and a later line closes one. -/
theorem leaves_eq_self_iff : leaves text after = after ↔
    ¬ (endsOpen text = true ∧ ∃ l ∈ after, "-/".toList <:+: l) := by
  have hclosing : (∃ l ∈ after, "-/".toList <:+: l) ↔ closing? after ≠ none := by
    rw [ne_eq, closing?_eq_none_iff]
    simp
  rw [hclosing]
  unfold leaves
  split
  · next hopen =>
    rw [hopen]
    split
    · next hnone => simp [hnone]
    · next rest more hsome =>
      refine iff_of_false (fun h ↦ ?_) (by simp [hsome])
      obtain ⟨l, hl, -⟩ := suffix_of_closing? hsome
      have hlength := (leaves_suffix rest more).length_le
      rw [h] at hlength
      exact absurd (hl.length_le.trans hlength) (by simp)
  · next hopen => exact iff_of_true rfl fun h ↦ hopen h.1

/-- A text in which no block is closed has none. -/
theorem withoutBlocks_of_not_closed (h : Text.cutAt? "-/" t = none) : withoutBlocks t = t := by
  cases hopen : Text.cutAt? "/-" t with
  | none => exact withoutBlocks_of_none hopen
  | some x =>
    refine withoutBlocks_of_open hopen (cutAt?_eq_none_iff.mpr fun hin ↦ ?_)
    refine cutAt?_eq_none_iff.mp h (hin.trans ?_)
    exact eq_of_cutAt? hopen ▸ (List.suffix_append _ x.2).isInfix

/-- What is left of a text, where a block may be open at its start. -/
def withoutOpen (isOpen : Bool) (t : Text) : Text :=
  if isOpen then
    match Text.cutAt? "-/" t with
    | none => t
    | some (_, rest) => withoutBlocks rest
  else withoutBlocks t

/-- **A comment passes on whether a block is open**, and all else that is left of it is on its
line. -/
theorem exists_withoutBlocks_append (ht : EndsLine t) (htext : '\n' ∉ text) :
    ∃ x, '\n' ∉ x ∧ withoutBlocks (text ++ t) = x ++ withoutOpen (endsOpen text) t := by
  fun_induction endsOpen text with
  | case1 text hopen =>
    refine ⟨text, htext, withoutBlocks_append ?_ fun _ ↦ ht.head?_ne (by decide)⟩
    exact cutAt?_eq_none_iff.mp hopen
  | case2 text front r hopen hclose =>
    have hcut : Text.cutAt? "-/" (r ++ t) = (Text.cutAt? "-/" t).map fun x ↦ (r ++ x.1, x.2) :=
      cutAt?_pair_append (cutAt?_eq_none_iff.mp hclose) fun _ ↦ ht.head?_ne (by decide)
    have hopen' : Text.cutAt? "/-" (text ++ t) = some (front, r ++ t) := cutAt?_append_of_some hopen t
    unfold withoutOpen
    rw [if_pos rfl]
    cases hlater : Text.cutAt? "-/" t with
    | none =>
      rw [hlater] at hcut
      exact ⟨text, htext, withoutBlocks_of_open hopen' hcut⟩
    | some x =>
      rw [hlater] at hcut
      refine ⟨front, fun hmem ↦ htext ?_, withoutBlocks_of_some hopen' hcut⟩
      rw [eq_of_cutAt? hopen, List.append_assoc]
      exact List.mem_append_left _ hmem
  | case3 text front r hopen c rest hclose ih =>
    have hsplit : text = front ++ "/-" ++ (c ++ "-/" ++ rest) := by
      rw [eq_of_cutAt? hopen, eq_of_cutAt? hclose]
    obtain ⟨x, hx, hrest⟩ := ih fun hmem ↦ htext <| by
      rw [hsplit]
      exact List.mem_append_right _ (List.mem_append_right _ hmem)
    have hfront : '\n' ∉ front := fun hmem ↦ htext <| by
      rw [hsplit, List.append_assoc]
      exact List.mem_append_left _ hmem
    refine ⟨front ++ x, List.not_mem_append hfront hx, ?_⟩
    rw [withoutBlocks_of_some (cutAt?_append_of_some hopen t) (cutAt?_append_of_some hclose t), hrest,
      List.append_assoc]

/-- **A block is closed on the first line that closes one.** -/
theorem cutAt?_beneath (after : List Text) : (Text.cutAt? "-/" (beneath after)).map (·.2) =
    (closing? after).map fun x ↦ x.1 ++ beneath x.2 := by
  induction after with
  | nil => rfl
  | cons l ls ih =>
    have hline : Text.cutAt? "-/" ('\n' :: l) = (Text.cutAt? "-/" l).map fun x ↦ ('\n' :: x.1, x.2) :=
      cutAt?_append_of_not_mem (u := ['\n']) (by decide) l
    rw [beneath_cons, ← List.cons_append, closing?]
    cases hcut : Text.cutAt? "-/" l with
    | none =>
      rw [hcut] at hline
      have hpass : Text.cutAt? "-/" ('\n' :: l ++ beneath ls) =
          (Text.cutAt? "-/" (beneath ls)).map fun x ↦ ('\n' :: l ++ x.1, x.2) :=
        cutAt?_pair_append (cutAt?_eq_none_iff.mp hline) fun _ ↦
          (endsLine_beneath ls).head?_ne (by decide)
      rw [hpass, Option.map_map]
      exact ih
    | some x =>
      rw [hcut] at hline
      rw [show Text.cutAt? "-/" ('\n' :: l ++ beneath ls) = some ('\n' :: x.1, x.2 ++ beneath ls) from
        cutAt?_append_of_some hline _]
      rfl

/-- **Behind a comment stays what it leaves**: the lines after it, or those after the line that
closes the block that it opened. -/
theorem exists_withoutBlocks_leaves (htext : '\n' ∉ text) (hafter : ∀ l ∈ after, '\n' ∉ l) :
    ∃ x, '\n' ∉ x ∧
      withoutBlocks (text ++ beneath after) = x ++ withoutBlocks (beneath (leaves text after)) := by
  -- On the lines: what follows on the line that closes the block is the end of the same comment.
  fun_induction leaves text after with
  | case1 text after hopen hclosing =>
    obtain ⟨x, hx, hblocks⟩ := exists_withoutBlocks_append (endsLine_beneath after) htext
    have hcut : Text.cutAt? "-/" (beneath after) = none := by
      have := cutAt?_beneath after
      rwa [hclosing, Option.map_none, Option.map_eq_none_iff] at this
    refine ⟨x, hx, hblocks.trans ?_⟩
    rw [withoutBlocks_of_not_closed hcut, withoutOpen, if_pos hopen, hcut]
  | case2 text after hopen rest more hclosing ih =>
    obtain ⟨l, hl, hrest⟩ := suffix_of_closing? hclosing
    obtain ⟨x', hx', hmore⟩ := ih
      (fun hmem ↦ hafter l (hl.subset List.mem_cons_self) (hrest.subset hmem))
      fun l' hl' ↦ hafter l' (hl.subset (List.mem_cons_of_mem _ hl'))
    obtain ⟨x, hx, hblocks⟩ := exists_withoutBlocks_append (endsLine_beneath after) htext
    obtain ⟨⟨c, _⟩, hcut, rfl⟩ : ∃ y, Text.cutAt? "-/" (beneath after) = some y ∧
        y.2 = rest ++ beneath more := by
      have := cutAt?_beneath after
      rwa [hclosing, Option.map_some, Option.map_eq_some_iff] at this
    refine ⟨x ++ x', List.not_mem_append hx hx', hblocks.trans ?_⟩
    rw [List.append_assoc, ← hmore, withoutOpen, if_pos hopen, hcut]
  | case3 text after hclosed =>
    obtain ⟨x, hx, hblocks⟩ := exists_withoutBlocks_append (endsLine_beneath after) htext
    exact ⟨x, hx, hblocks.trans (by rw [withoutOpen, if_neg hclosed])⟩

/-! ### Lines that are comments -/

theorem withoutComments_beneath {before rest : List Text} {l u : Text}
    (hbefore : ∀ l ∈ before, ¬ "/-".toList <:+: l)
    (hl : withoutBlocks (l ++ beneath after) = u ++ withoutBlocks (beneath rest)) :
    withoutComments (beneath (before ++ l :: after)) =
      withoutEnds (beneath before) ++
        '\n' :: (withoutEnds u ++ withoutEnds (withoutBlocks (beneath rest))) := by
  rw [beneath_append, beneath_cons, withoutComments_eq, withoutBlocks_beneath hbefore (.cons _),
    withoutBlocks_newline, hl, withoutEnds_append (.cons _), withoutEnds_newline,
    withoutEnds_append (endsLine_withoutBlocks (endsLine_beneath rest))]

/-- **A line that is a comment becomes a line of blanks** and takes with it what it does not
leave. -/
theorem isThinned_withoutComments {before : List Text} (hb : IsInline b) (htext : '\n' ∉ text)
    (hafter : ∀ l ∈ after, '\n' ∉ l) (hbefore : ∀ l ∈ before, ¬ "/-".toList <:+: l) :
    IsThinned (withoutComments (beneath (before ++ (b ++ ("--" ++ text)) :: after)))
      (withoutComments (beneath (before ++ [] :: leaves text after))) := by
  obtain ⟨x, hx, hblocks⟩ := exists_withoutBlocks_leaves htext hafter
  have hslash : '/' ∉ b := fun hmem ↦ absurd (hb.blank _ hmem) (by decide)
  have hdash : '-' ∉ b := fun hmem ↦ absurd (hb.blank _ hmem) (by decide)
  have hmark : '/' ∉ b ++ "--" := List.not_mem_append hslash (by decide)
  have hline : withoutBlocks (b ++ ("--" ++ text) ++ beneath after) =
      b ++ ("--" ++ x) ++ withoutBlocks (beneath (leaves text after)) := by
    rw [← List.append_assoc b, List.append_assoc (b ++ _), withoutBlocks_append
      (not_infix_of_not_mem hmark) fun h ↦ absurd (List.mem_of_getLast? h) hmark, hblocks]
    simp only [List.append_assoc]
  have hcomment : withoutEnds (b ++ ("--" ++ x)) = b :=
    withoutEnds_comment (not_infix_of_not_mem hdash) (fun h ↦ hdash (List.mem_of_getLast? h))
      hb.newline hx
  rw [withoutComments_beneath hbefore hline, hcomment,
    withoutComments_beneath (l := []) (u := []) hbefore rfl]
  exact .line _ hb (endsLine_withoutEnds (endsLine_withoutBlocks (endsLine_beneath _)))

end Declarations

open Declarations

/-- **A line that is a comment makes no difference**, unless it opens a block that a later line
closes. For whatever text and any line of it that begins with `--`, perhaps after blanks, where no
line before it has the mark that opens a block: what is loaded stays the same, name, libraries or
failure, when this line is made empty and the lines are dropped that go with it. These are none
exactly if the comment opens no block that goes on behind it, or no later line has the mark that
closes one. -/
theorem load_of_comment_line {host : Host} {workspace : Path} {source b text : Text}
    {before after : List Text} (hload : LoadsFrom host workspace source)
    (hlines : Text.pieces '\n' source = before ++ (b ++ ("--" ++ text)) :: after)
    (hb : ∀ c ∈ b, Text.isBlank c = true) (hbefore : ∀ l ∈ before, ¬ "/-".toList <:+: l) :
    (∀ host', LoadsFrom host' workspace (Text.joinWith "\n" (before ++ [] :: leaves text after)) →
      (load host workspace).outcome = (load host' workspace).outcome) ∧
    (leaves text after = after ↔ ¬ (endsOpen text = true ∧ ∃ l ∈ after, "-/".toList <:+: l)) ∧
    (¬ (endsOpen text = true ∧ ∃ l ∈ after, "-/".toList <:+: l) →
      ∀ host', LoadsFrom host' workspace (Text.joinWith "\n" (before ++ [] :: after)) →
        (load host workspace).outcome = (load host' workspace).outcome) := by
  have hnewline : ∀ l ∈ before ++ (b ++ ("--" ++ text)) :: after, '\n' ∉ l := fun l hl ↦
    Text.not_mem_of_mem_pieces (hlines ▸ hl)
  obtain ⟨hline, hafter⟩ := List.forall_mem_cons.mp (List.forall_mem_append.mp hnewline).2
  have hinline : IsInline b := fun c hc ↦
    ⟨hb c hc, fun he ↦ hline (List.mem_append_left _ (he ▸ hc))⟩
  have htext : '\n' ∉ text := fun hmem ↦
    hline (List.mem_append_right _ (List.mem_append_right _ hmem))
  have hthinned := isThinned_withoutComments hinline htext hafter hbefore
  have hsource : '\n' :: source = Text.beneath (before ++ (b ++ ("--" ++ text)) :: after) := by
    rw [← hlines, ← Text.newline_cons_joinWith (Text.pieces_ne_nil '\n' source)]
    exact congrArg ('\n' :: ·) (Text.joinWith_pieces '\n' source).symm
  have hsame : ∀ host', LoadsFrom host' workspace
      (Text.joinWith "\n" (before ++ [] :: leaves text after)) →
      (load host workspace).outcome = (load host' workspace).outcome := by
    intro host' hload'
    have hne : before ++ [] :: leaves text after ≠ [] := by simp
    rw [outcome_load hload, outcome_load hload', package?_eq, package?_eq, libraries_eq, libraries_eq,
      hsource, Text.newline_cons_joinWith hne,
      isScan_packageIn?.eq_of_thinned (fun _ _ ↦ IsThinned.packageAt?) hthinned,
      isScan_librariesIn.eq_of_thinned (fun _ _ ↦ IsThinned.libraryAt?) hthinned]
  refine ⟨hsame, leaves_eq_self_iff, fun hnone ↦ ?_⟩
  have hleaves := leaves_eq_self_iff.mpr hnone
  rwa [hleaves] at hsame

/-- A comment opens a block, and a block further down ends with the mark that closes one. -/
def openedText : Text := "package p\n-- a /- b\nlean_lib A\n/- c -/\nlean_lib B\n"

/-- The lines behind the comment. -/
def lateLines : List Text := ["lean_lib A", "/- c -/", "lean_lib B", ""]

/-- The same text with an empty line for the comment. -/
def emptiedText : Text := "package p\n\nlean_lib A\n/- c -/\nlean_lib B\n"

/-- **A library is lost behind a comment**, and found when the comment is not there. -/
theorem load_of_comment_line_opened :
    LoadsFrom (declarationsHost openedText) Path.here openedText ∧
      (load (declarationsHost openedText) Path.here).outcome.map Package.libraries = .ok ["B".toList] ∧
      LoadsFrom (declarationsHost emptiedText) Path.here emptiedText ∧
      (load (declarationsHost emptiedText) Path.here).outcome.map Package.libraries =
        .ok ["A".toList, "B".toList] := by
  have hopened : LoadsFrom (declarationsHost openedText) Path.here openedText := ⟨by cbv, by cbv⟩
  have hemptied : LoadsFrom (declarationsHost emptiedText) Path.here emptiedText := ⟨by cbv, by cbv⟩
  have hlines : Text.pieces '\n' openedText =
      ["package p".toList] ++ ([] ++ ("--".toList ++ " a /- b".toList)) :: lateLines := by
    decide
  -- what the comment leaves is the declaration behind the line that closes a block
  have hleft : LoadsFrom (declarationsHost "package p\n\nlean_lib B\n") Path.here
      (Text.joinWith "\n" (["package p".toList] ++ [] :: leaves " a /- b" lateLines)) :=
    ⟨by cbv, by cbv⟩
  have hblank : ∀ c ∈ ([] : Text), Text.isBlank c = true := List.forall_mem_nil _
  have hsame := (load_of_comment_line hopened hlines hblank (by decide)).1 _ hleft
  refine ⟨hopened, ?_, hemptied, ?_⟩
  · rw [hsame]
    cbv
  · cbv

end StyleLinter.Build
