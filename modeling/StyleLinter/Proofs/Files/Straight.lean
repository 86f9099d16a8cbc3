import StyleLinter.Proofs.Files.Routes

/-!
# Straight routes

A route may go up and down again before it ends. Without symbolic links **each place is reached
straight from every place above it where a route to it begins**: the names on the way down are among
the names of the route, and the owner, who got through all directories of the route, gets through
those (`Tree.follow_straight`). So what a path leads to below its base has a path that leads down
from the base, and this path can be passed on as well, being shorter (`Disk.spot_straight`).
-/

namespace StyleLinter.Files

namespace Tree

variable {t : Tree} {links : Nat} {dir top up rest : Place} {name : Text} {names : List Text}
  {s : Spot}

/-- Without links, a name leads one place down. -/
theorem follow_of_follow_cons (ht : t.Linkless) (hdot : name ≠ ".") (hdots : name ≠ "..")
    (h : t.follow links dir (name :: rest) = .ok (.found s)) :
    t.follow links (dir ++ [name]) rest = .ok (.found s) := by
  rw [follow] at h
  split at h
  · cases h
  · simp only [if_neg hdot, if_neg hdots] at h
    split at h
    · cases h
    · split at h
      · split at h <;> cases h
      · next target hn => exact absurd hn (ht _ _)
      · exact h

/-- Are two ways down from one place parted there? The first one may also not have begun. -/
def Parted (up rest : Place) : Prop := up = [] ∨ up.head? ≠ rest.head?

theorem Parted.of_concat (h : Parted (up ++ [name]) rest) : Parted up rest := by
  cases up with
  | nil => exact .inl rfl
  | cons => exact .inr (h.resolve_left (List.cons_ne_nil _ _))

theorem Parted.concat (h : Parted up rest) (hname : ¬ (up = [] ∧ rest.head? = some name)) :
    Parted (up ++ [name]) rest := by
  refine .inr ?_
  cases up with
  | nil => exact fun hhead ↦ hname ⟨rfl, hhead.symm⟩
  | cons => exact h.resolve_left (List.cons_ne_nil _ _)

/-- **Without links, a route that ends below a place leads there straight from this place**, also
where it begins below the place itself, but off the way down. -/
theorem follow_straight (ht : t.Linkless) (h : t.follow links dir names = .ok (.found s))
    (hdir : dir = top ++ up) (hplace : s.place = top ++ rest) (hparted : Parted up rest) :
    t.follow links top rest = .ok (.found s) ∧ rest.Sublist names ∧
      ∀ n ∈ rest, n ≠ "." ∧ n ≠ ".." := by
  -- along the route, `top` being the last place on it that is on the way down
  fun_induction Tree.follow t links dir names generalizing top up rest with
  | case1 links dir =>
    obtain rfl := Landing.found.inj (Except.ok.inj h)
    have hsame : up = rest := List.append_cancel_left (hdir.symm.trans hplace)
    obtain rfl : up = [] := hparted.resolve_right fun hne ↦ hne (congrArg _ hsame)
    rw [← hsame, hdir, List.append_nil]
    exact ⟨follow_nil, .refl _, fun _ hn ↦ absurd hn List.not_mem_nil⟩
  | case2 | case5 | case6 | case7 | case9 => cases h
  | case3 links dir names hp ih =>
    obtain ⟨hf, hsub, hdown⟩ := ih h hdir hplace hparted
    exact ⟨hf, hsub.cons _, hdown⟩
  | case4 links dir names hp _ ih =>
    rcases List.eq_nil_or_concat up with rfl | ⟨up, last, rfl⟩
    · rw [List.append_nil] at hdir
      rcases List.eq_nil_or_concat top with rfl | ⟨top, name, rfl⟩
      · -- above the root is the root
        have hroot : dir.dropLast = [] ++ [] := by rw [hdir]; rfl
        obtain ⟨hf, hsub, hdown⟩ := ih h hroot hplace (.inl rfl)
        exact ⟨hf, hsub.cons _, hdown⟩
      · -- the way down now begins one place higher
        rw [List.concat_eq_append] at hdir hplace ⊢
        have hup : dir.dropLast = top ++ [] := by rw [hdir, List.dropLast_concat, List.append_nil]
        rw [List.append_assoc] at hplace
        obtain ⟨hf, hsub, hdown⟩ := ih h hup hplace (.inl rfl)
        obtain ⟨hdot, hdots⟩ := hdown name List.mem_cons_self
        have hsub' : rest.Sublist names := (List.sublist_cons_self name rest).trans hsub
        exact ⟨follow_of_follow_cons ht hdot hdots hf, hsub'.cons _,
          fun n hn ↦ hdown n (List.mem_cons_of_mem _ hn)⟩
    · rw [List.concat_eq_append] at hdir hparted
      have hup : dir.dropLast = top ++ up := by
        rw [hdir, ← List.append_assoc, List.dropLast_concat]
      obtain ⟨hf, hsub, hdown⟩ := ih h hup hplace hparted.of_concat
      exact ⟨hf, hsub.cons _, hdown⟩
  | case8 links dir name names _ _ _ _ target hn => exact absurd hn (ht _ _)
  | case10 links dir name names hp hdot hdots hlen n hlink hn ih =>
    have hbelow : dir ++ [name] = top ++ (up ++ [name]) := by rw [hdir, List.append_assoc]
    by_cases hnext : up = [] ∧ rest.head? = some name
    · -- the name is the next one on the way down
      obtain ⟨rfl, hhead⟩ := hnext
      obtain ⟨rest, rfl⟩ := List.head?_eq_some_iff.mp hhead
      have hdown' : dir ++ [name] = top ++ [name] ++ [] := by rw [hbelow, List.append_nil]; rfl
      rw [List.append_cons] at hplace
      obtain ⟨hf, hsub, hdown⟩ := ih h hdown' hplace (.inl rfl)
      rw [List.append_nil] at hdir
      subst hdir
      rw [follow_down hp hdot hdots hlen hn hlink]
      exact ⟨hf, hsub.cons_cons _, List.forall_mem_cons.mpr ⟨⟨hdot, hdots⟩, hdown⟩⟩
    · obtain ⟨hf, hsub, hdown⟩ := ih h hbelow hplace (hparted.concat hnext)
      exact ⟨hf, hsub.cons _, hdown⟩

end Tree

namespace Disk

variable {d : Disk} {base : Path} {spot s : Spot} {names rest : List Text}

/-- **Without links, what a path leads to below its base has a path that leads down from there.** -/
theorem spot_straight (ht : d.tree.Linkless) (hbase : d.spot base = .ok spot)
    (hs : d.spot (base.below names) = .ok s) (hrest : rest ≠ [])
    (hplace : s.place = spot.place ++ rest) : d.spot (base.below rest) = .ok s := by
  have hnames : names ≠ [] := by
    rintro rfl
    rw [Path.below, List.append_nil] at hs
    obtain rfl := Except.ok.inj (hbase.symm.trans hs)
    exact hrest (List.append_right_eq_self.mp hplace.symm)
  obtain ⟨spot', hbase', hf⟩ := exists_spot_of_spot_below hnames hs
  obtain rfl := Except.ok.inj (hbase.symm.trans hbase')
  obtain ⟨hfollow, hsub, -⟩ :=
    Tree.follow_straight ht hf (List.append_nil _).symm hplace (.inl rfl)
  have htext : (base.below rest).toText.Sublist (base.below names).toText := by
    rw [Path.toText_of_parts (List.append_ne_nil_of_right_ne_nil _ hrest),
      Path.toText_of_parts (List.append_ne_nil_of_right_ne_nil _ hnames)]
    exact (List.Sublist.refl _).append
      (Text.joinWith_sublist _ ((List.Sublist.refl _).append hsub))
  have ha := admissible_of_sublist htext (admissible_of_land (land_of_spot hs)).1
  refine spot_of_land ?_
  rw [land_below hbase hrest ha]
  exact mapError_eq_ok_iff.mpr hfollow

end Disk

end StyleLinter.Files
