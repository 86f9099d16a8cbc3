import Mathlib.Data.List.Perm.Basic
import StyleLinter.Attempt

/-!
# Sequences of attempts

What a sequence of steps that may fail comes to. A traversal succeeds exactly when every one of its
steps does, and then its values are those of the steps, one for one: this is the `Forall₂` form
`mapM_eq_ok_iff`, from which membership and length follow. An attempt differs from a plain result
by its notes only, so the outcome of a traversal of attempts is the traversal of the outcomes
(`Attempt.outcome_mapM`).

Nothing passes from one step to another. So items in another order have the same values in another
order (`mapM_perm`), and the values of one item are the same among those of others
(`filter_flatten_of_mapM`).
-/

namespace StyleLinter

variable {α β γ ε ε' : Type}

/-! ### Lists item by item -/

theorem exists_of_mem_left {R : α → β → Prop} {xs : List α} {ys : List β}
    (h : List.Forall₂ R xs ys) {x : α} (hx : x ∈ xs) : ∃ y ∈ ys, R x y := by
  induction h with
  | nil => exact absurd hx List.not_mem_nil
  | @cons z y xs ys hy _ ih =>
    rcases List.mem_cons.mp hx with rfl | hx
    · exact ⟨y, List.mem_cons_self, hy⟩
    · obtain ⟨y', hy', hxy⟩ := ih hx
      exact ⟨y', List.mem_cons_of_mem _ hy', hxy⟩

theorem exists_of_mem_right {R : α → β → Prop} {xs : List α} {ys : List β}
    (h : List.Forall₂ R xs ys) {y : β} (hy : y ∈ ys) : ∃ x ∈ xs, R x y :=
  exists_of_mem_left h.flip hy

/-- **Each item has a counterpart** exactly if the list has. -/
theorem exists_forall₂_iff {R : α → β → Prop} {xs : List α} :
    (∃ ys, List.Forall₂ R xs ys) ↔ ∀ x ∈ xs, ∃ y, R x y := by
  constructor
  · rintro ⟨ys, h⟩ x hx
    exact (exists_of_mem_left h hx).imp fun _ hy ↦ hy.2
  · intro h
    induction xs with
    | nil => exact ⟨[], .nil⟩
    | cons x xs ih =>
      obtain ⟨y, hy⟩ := h x List.mem_cons_self
      obtain ⟨ys, hys⟩ := ih fun z hz ↦ h z (List.mem_cons_of_mem _ hz)
      exact ⟨y :: ys, .cons hy hys⟩

theorem drop_length_takeWhile (p : α → Bool) (xs : List α) :
    xs.drop (xs.takeWhile p).length = xs.dropWhile p := by
  have h : (xs.takeWhile p ++ xs.dropWhile p).drop (xs.takeWhile p).length = xs.dropWhile p :=
    List.drop_left
  rwa [List.takeWhile_append_dropWhile] at h

/-- **A list is cut where a property is lost.** -/
theorem takeWhile_append_of_stop {p : α → Bool} {xs ys : List α} (hxs : ∀ x ∈ xs, p x = true)
    (hys : ∀ y ∈ ys.head?, p y = false) :
    (xs ++ ys).takeWhile p = xs ∧ (xs ++ ys).dropWhile p = ys := by
  rw [List.takeWhile_append_of_pos hxs, List.dropWhile_append_of_pos hxs]
  cases ys with
  | nil => exact ⟨List.append_nil xs, rfl⟩
  | cons y ys =>
    have hy : ¬ p y = true := Bool.not_eq_true _ ▸ hys y rfl
    rw [List.takeWhile_cons_of_neg hy, List.dropWhile_cons_of_neg hy, List.append_nil]
    exact ⟨rfl, rfl⟩

/-! ### Plain results -/

theorem bind_eq_ok_iff {x : Except ε α} {f : α → Except ε β} {b : β} :
    (x >>= f) = .ok b ↔ ∃ a, x = .ok a ∧ f a = .ok b := by
  cases x with
  | error e => simp [bind, Except.bind]
  | ok a => simp [bind, Except.bind]

/-- **Two steps succeed** if the first does, and the second whatever it is given. -/
theorem exists_bind_iff {x : Except ε α} {f : α → Except ε β} {P : Prop}
    (h : ∀ a, (∃ b, f a = .ok b) ↔ P) : (∃ b, (x >>= f) = .ok b) ↔ (∃ a, x = .ok a) ∧ P := by
  constructor
  · rintro ⟨b, hb⟩
    obtain ⟨a, ha, hfa⟩ := bind_eq_ok_iff.mp hb
    exact ⟨⟨a, ha⟩, (h a).mp ⟨b, hfa⟩⟩
  · rintro ⟨⟨a, ha⟩, hP⟩
    obtain ⟨b, hb⟩ := (h a).mpr hP
    exact ⟨b, bind_eq_ok_iff.mpr ⟨a, ha, hb⟩⟩

theorem map_eq_ok_iff {x : Except ε α} {f : α → β} {b : β} :
    x.map f = .ok b ↔ ∃ a, x = .ok a ∧ f a = b := by
  cases x with
  | error e => simp [Except.map]
  | ok a => simp [Except.map]

theorem bind_eq_error_iff {x : Except ε α} {f : α → Except ε β} {e : ε} :
    (x >>= f) = .error e ↔ x = .error e ∨ ∃ a, x = .ok a ∧ f a = .error e := by
  cases x with
  | error e' => simp [bind, Except.bind]
  | ok a => simp [bind, Except.bind]

theorem map_eq_error_iff {x : Except ε α} {f : α → β} {e : ε} :
    x.map f = .error e ↔ x = .error e := by
  cases x <;> simp [Except.map]

theorem map_map {x : Except ε α} (f : α → β) (g : β → γ) :
    (x.map f).map g = x.map fun a ↦ g (f a) := by
  cases x <;> rfl

theorem mapError_eq_ok_iff {x : Except ε α} {f : ε → ε'} {a : α} :
    x.mapError f = .ok a ↔ x = .ok a := by
  cases x <;> simp [Except.mapError]

theorem mapError_eq_error_iff {x : Except ε α} {f : ε → ε'} {e' : ε'} :
    x.mapError f = .error e' ↔ ∃ e, x = .error e ∧ f e = e' := by
  cases x <;> simp [Except.mapError]

/-- **A traversal succeeds exactly when each step does**, and its values are those of the steps. -/
theorem mapM_eq_ok_iff {f : α → Except ε β} {xs : List α} {ys : List β} :
    xs.mapM f = .ok ys ↔ List.Forall₂ (fun x y ↦ f x = .ok y) xs ys := by
  induction xs generalizing ys with
  | nil =>
    rw [List.mapM_nil, List.forall₂_nil_left_iff]
    exact ⟨fun h ↦ (Except.ok.inj h).symm, fun h ↦ h ▸ rfl⟩
  | cons x xs ih =>
    rw [List.mapM_cons, bind_eq_ok_iff, List.forall₂_cons_left_iff]
    constructor
    · rintro ⟨y, hy, h⟩
      obtain ⟨zs, hzs, h⟩ := bind_eq_ok_iff.mp h
      exact ⟨y, zs, hy, ih.mp hzs, (Except.ok.inj h).symm⟩
    · rintro ⟨y, zs, hy, hzs, rfl⟩
      exact ⟨y, hy, bind_eq_ok_iff.mpr ⟨zs, ih.mpr hzs, rfl⟩⟩

/-- **A traversal fails with the first step that does**, and the steps before it are done. -/
theorem mapM_eq_error_iff {f : α → Except ε β} {xs : List α} {e : ε} :
    xs.mapM f = .error e ↔ ∃ before x after, xs = before ++ x :: after ∧
      (∀ z ∈ before, ∃ y, f z = .ok y) ∧ f x = .error e := by
  induction xs with
  | nil => exact ⟨nofun, fun ⟨_, _, _, he, _⟩ ↦ absurd he (by simp)⟩
  | cons x xs ih =>
    rw [List.mapM_cons, bind_eq_error_iff]
    constructor
    · rintro (h | ⟨y, hy, h⟩)
      · exact ⟨[], x, xs, rfl, nofun, h⟩
      · rcases bind_eq_error_iff.mp h with h | ⟨ys, -, h⟩
        · obtain ⟨before, z, after, rfl, hbefore, hz⟩ := ih.mp h
          refine ⟨x :: before, z, after, rfl, fun w hw ↦ ?_, hz⟩
          rcases List.mem_cons.mp hw with rfl | hw
          · exact ⟨y, hy⟩
          · exact hbefore w hw
        · exact absurd h nofun
    · rintro ⟨before, z, after, he, hbefore, hz⟩
      cases before with
      | nil =>
        obtain ⟨rfl, rfl⟩ := List.cons.inj he
        exact .inl hz
      | cons b before =>
        obtain ⟨rfl, rfl⟩ := List.cons.inj he
        obtain ⟨y, hy⟩ := hbefore x List.mem_cons_self
        have hrest := ih.mpr
          ⟨before, z, after, rfl, fun w hw ↦ hbefore w (List.mem_cons_of_mem _ hw), hz⟩
        exact .inr ⟨y, hy, bind_eq_error_iff.mpr (.inl hrest)⟩

theorem exists_of_mem_mapM {f : α → Except ε β} {xs : List α} {ys : List β}
    (h : xs.mapM f = .ok ys) {y : β} (hy : y ∈ ys) : ∃ x ∈ xs, f x = .ok y :=
  exists_of_mem_right (mapM_eq_ok_iff.mp h) hy

theorem exists_mem_of_mapM {f : α → Except ε β} {xs : List α} {ys : List β}
    (h : xs.mapM f = .ok ys) {x : α} (hx : x ∈ xs) : ∃ y ∈ ys, f x = .ok y :=
  exists_of_mem_left (mapM_eq_ok_iff.mp h) hx

theorem mem_flatten_of_mapM {f : α → Except ε (List β)} {xs : List α} {yss : List (List β)}
    (h : xs.mapM f = .ok yss) {y : β} :
    y ∈ yss.flatten ↔ ∃ x ∈ xs, ∃ ys, f x = .ok ys ∧ y ∈ ys := by
  constructor
  · intro hy
    obtain ⟨ys, hys, hy⟩ := List.mem_flatten.mp hy
    obtain ⟨x, hx, hfx⟩ := exists_of_mem_mapM h hys
    exact ⟨x, hx, ys, hfx, hy⟩
  · rintro ⟨x, hx, ys, hfx, hy⟩
    obtain ⟨ys', hys', hfx'⟩ := exists_mem_of_mapM h hx
    obtain rfl := Except.ok.inj (hfx.symm.trans hfx')
    exact List.mem_flatten.mpr ⟨ys, hys', hy⟩

theorem exists_mapM_iff {f : α → Except ε β} {xs : List α} :
    (∃ ys, xs.mapM f = .ok ys) ↔ ∀ x ∈ xs, ∃ y, f x = .ok y :=
  (exists_congr fun _ ↦ mapM_eq_ok_iff).trans exists_forall₂_iff

theorem exists_mapM {f : α → Except ε β} {xs : List α} (h : ∀ x ∈ xs, ∃ y, f x = .ok y) :
    ∃ ys, xs.mapM f = .ok ys :=
  exists_mapM_iff.mpr h

theorem mapM_congr {f g : α → Except ε β} {xs : List α} (h : ∀ x ∈ xs, f x = g x) :
    xs.mapM f = xs.mapM g := by
  induction xs with
  | nil => rfl
  | cons x xs ih =>
    rw [List.mapM_cons, List.mapM_cons, h x List.mem_cons_self,
      ih fun y hy ↦ h y (List.mem_cons_of_mem _ hy)]

theorem mapM_attach (f : α → Except ε β) (xs : List α) :
    xs.attach.mapM (fun x ↦ f x.1) = xs.mapM f := by
  have h := List.mapM_map (m := Except ε) (f := Subtype.val) (g := f) (l := xs.attach)
  rw [List.attach_map_subtype_val] at h
  exact h.symm

/-- What is done to each value of a traversal can be done to all of them afterwards. -/
theorem mapM_map_right (f : α → Except ε β) (g : β → γ) (xs : List α) :
    (xs.mapM fun x ↦ (f x).map g) = (xs.mapM f).map (List.map g) := by
  induction xs with
  | nil => rfl
  | cons x xs ih =>
    rw [List.mapM_cons, List.mapM_cons, ih]
    cases f x with
    | error e => rfl
    | ok y => cases xs.mapM f <;> rfl

/-- **The order of the items shows in the order of the values only.** -/
theorem mapM_perm {f : α → Except ε β} {xs xs' : List α} {ys : List β} (hperm : xs.Perm xs')
    (h : xs.mapM f = .ok ys) : ∃ ys', xs'.mapM f = .ok ys' ∧ ys.Perm ys' := by
  obtain ⟨ys', hall, hys⟩ := List.perm_comp_forall₂ hperm.symm (mapM_eq_ok_iff.mp h)
  exact ⟨ys', mapM_eq_ok_iff.mpr hall, hys.symm⟩

/-- **The values of one item can be told from those of the others**, if they show which item they
belong to. -/
theorem filter_flatten_of_mapM {f : α → Except ε (List β)} {q : β → Bool} {xs : List α}
    {yss : List (List β)} (h : xs.mapM f = .ok yss) (hnd : xs.Nodup) {x : α} (hx : x ∈ xs)
    (hown : ∀ ys, f x = .ok ys → ∀ y ∈ ys, q y = true)
    (hother : ∀ z ∈ xs, z ≠ x → ∀ ys, f z = .ok ys → ∀ y ∈ ys, q y = false) :
    f x = .ok (yss.flatten.filter q) := by
  have hall := mapM_eq_ok_iff.mp h
  clear h
  induction hall with
  | nil => exact absurd hx List.not_mem_nil
  | @cons z ys xs yss hz hall ih =>
    rw [List.nodup_cons] at hnd
    rw [List.flatten_cons, List.filter_append]
    rcases List.mem_cons.mp hx with rfl | hx
    · have hys : ys.filter q = ys := List.filter_eq_self.mpr (hown ys hz)
      have hrest : yss.flatten.filter q = [] := by
        refine List.filter_eq_nil_iff.mpr fun y hy ↦ ?_
        obtain ⟨z, hz, ws, hws, hy⟩ := (mem_flatten_of_mapM (mapM_eq_ok_iff.mpr hall)).mp hy
        have hne : z ≠ x := fun he ↦ hnd.1 (he ▸ hz)
        simp [hother z (List.mem_cons_of_mem _ hz) hne ws hws y hy]
      rw [hys, hrest, List.append_nil, hz]
    · have hne : z ≠ x := fun he ↦ hnd.1 (he ▸ hx)
      have hys : ys.filter q = [] := by
        refine List.filter_eq_nil_iff.mpr fun y hy ↦ ?_
        simp [hother z List.mem_cons_self hne ys hz y hy]
      rw [hys, List.nil_append]
      exact ih hnd.2 hx fun w hw ↦ hother w (List.mem_cons_of_mem _ hw)

/-- **A part of the items gives a part of the values**, if the values show which part it is. -/
theorem mapM_filter {f : α → Except ε β} {p : α → Bool} {q : β → Bool} {xs : List α} {ys : List β}
    (h : xs.mapM f = .ok ys) (hpq : ∀ x y, f x = .ok y → q y = p x) :
    (xs.filter p).mapM f = .ok (ys.filter q) := by
  have hall := mapM_eq_ok_iff.mp h
  clear h
  rw [mapM_eq_ok_iff]
  induction hall with
  | nil => exact .nil
  | @cons x y xs ys hxy _ ih =>
    -- the value is in the part exactly if its item is
    have hq := hpq x y hxy
    cases hp : p x with
    | true =>
      rw [List.filter_cons_of_pos hp, List.filter_cons_of_pos (hq.trans hp)]
      exact .cons hxy ih
    | false =>
      rw [List.filter_cons_of_neg (by simp [hp]), List.filter_cons_of_neg (by simp [hq, hp])]
      exact ih

/-- Steps that can be taken back are taken back one after the other. -/
theorem mapM_back {f : α → Except ε β} {g : β → Except ε' α} {xs : List α} {ys : List β}
    (h : xs.mapM f = .ok ys) (hback : ∀ x ∈ xs, ∀ y, f x = .ok y → g y = .ok x) :
    ys.mapM g = .ok xs := by
  have hall := mapM_eq_ok_iff.mp h
  clear h
  refine mapM_eq_ok_iff.mpr ?_
  induction hall with
  | nil => exact .nil
  | @cons x y xs ys hxy _ ih =>
    exact .cons (hback x List.mem_cons_self y hxy)
      (ih fun x' hx' ↦ hback x' (List.mem_cons_of_mem _ hx'))

/-- What tells any two items apart tells their values apart. -/
theorem pairwise_of_mapM {f : α → Except ε β} {S : α → α → Prop} {R : β → β → Prop} {xs : List α}
    {ys : List β} (h : xs.mapM f = .ok ys) (hS : xs.Pairwise S)
    (hR : ∀ {x x' y y'}, S x x' → f x = .ok y → f x' = .ok y' → R y y') : ys.Pairwise R := by
  induction xs generalizing ys with
  | nil =>
    obtain rfl := List.forall₂_nil_left_iff.mp (mapM_eq_ok_iff.mp h)
    exact .nil
  | cons x xs ih =>
    rw [List.pairwise_cons] at hS
    obtain ⟨y, zs, hy, hzs, rfl⟩ := List.forall₂_cons_left_iff.mp (mapM_eq_ok_iff.mp h)
    have hzs := mapM_eq_ok_iff.mpr hzs
    refine List.pairwise_cons.mpr ⟨fun z hz ↦ ?_, ih hzs hS.2⟩
    obtain ⟨x', hx', hz⟩ := exists_of_mem_mapM hzs hz
    exact hR (hS.1 x' hx') hy hz

/-- **A traversal that may find nothing** finds what each step finds. -/
theorem mapM_eq_some_iff {f : α → Option β} {xs : List α} {ys : List β} :
    xs.mapM f = some ys ↔ List.Forall₂ (fun x y ↦ f x = some y) xs ys := by
  induction xs generalizing ys with
  | nil =>
    rw [List.mapM_nil, List.forall₂_nil_left_iff]
    exact ⟨fun h ↦ (Option.some.inj h).symm, fun h ↦ h ▸ rfl⟩
  | cons x xs ih =>
    rw [List.mapM_cons, List.forall₂_cons_left_iff]
    constructor
    · intro h
      obtain ⟨y, hy, h⟩ := Option.bind_eq_some_iff.mp h
      obtain ⟨zs, hzs, h⟩ := Option.bind_eq_some_iff.mp h
      exact ⟨y, zs, hy, ih.mp hzs, (Option.some.inj h).symm⟩
    · rintro ⟨y, zs, hy, hzs, rfl⟩
      exact Option.bind_eq_some_iff.mpr ⟨y, hy, Option.bind_eq_some_iff.mpr ⟨zs, ih.mpr hzs, rfl⟩⟩

/-! ### Attempts -/

namespace Attempt

/-- **A step of a successful sequence is successful**, and the rest goes on from its value. -/
theorem outcome_bind_eq_ok_iff {x : Attempt α} {f : α → Attempt β} {b : β} :
    (x >>= f).outcome = .ok b ↔ ∃ a, x.outcome = .ok a ∧ (f a).outcome = .ok b := by
  rw [outcome_bind]
  exact bind_eq_ok_iff

theorem outcome_bind_eq_error_iff {x : Attempt α} {f : α → Attempt β} {e : Failure} :
    (x >>= f).outcome = .error e ↔
      x.outcome = .error e ∨ ∃ a, x.outcome = .ok a ∧ (f a).outcome = .error e := by
  rw [outcome_bind]
  exact bind_eq_error_iff

/-- **Notes do not change what a traversal comes to.** -/
theorem outcome_mapM (f : α → Attempt β) (xs : List α) :
    (xs.mapM f).outcome = xs.mapM fun x ↦ (f x).outcome := by
  induction xs with
  | nil => rfl
  | cons x xs ih =>
    rw [List.mapM_cons, List.mapM_cons, outcome_bind]
    congr 1
    funext y
    rw [outcome_bind, ih]
    rfl

end Attempt

end StyleLinter
