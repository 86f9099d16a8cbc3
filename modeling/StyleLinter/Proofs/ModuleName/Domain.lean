import StyleLinter.Proofs.ModuleName

/-!
# Where names and files lead back to each other

A module name without slashes leads to a file exactly if its dots cut it into nonempty names, and
the file is made of these, with the extension on the last (`toPath_eq_ok_iff`). So what it leads to
is a path **without dots of its own**: neither its directories nor its last name without the
extension have any, and the last name is more than the extension (`IsDotFree`).

The names and the files lead back to each other just there, for any extension that stays in the
last name, be it a single dot (`names_and_files_lead_back_iff`).
-/

namespace StyleLinter.ModuleName

variable {extension m stem t : Text} {front : List Text} {p : Path}

/-- Has the path no dots but those of the extension, which is not all of its last name? -/
def IsDotFree (extension : Text) (p : Path) : Prop :=
  (∀ t ∈ p.parts.dropLast, '.' ∉ t) ∧
    ∃ stem, p.parts.getLast? = some (stem ++ extension) ∧ stem ≠ [] ∧ '.' ∉ stem

theorem isDotFree_iff : IsDotFree extension p ↔ ∃ front stem,
    p.parts = front ++ [stem ++ extension] ∧ stem ≠ [] ∧ ∀ t ∈ front ++ [stem], '.' ∉ t := by
  constructor
  · rintro ⟨hfront, stem, hlast, hstem, hdot⟩
    obtain ⟨front, hparts⟩ := List.getLast?_eq_some_iff.mp hlast
    rw [hparts, List.dropLast_concat] at hfront
    exact ⟨front, stem, hparts, hstem,
      List.forall_mem_append.mpr ⟨hfront, List.forall_mem_singleton.mpr hdot⟩⟩
  · rintro ⟨front, stem, hparts, hstem, hdots⟩
    rw [IsDotFree, hparts, List.dropLast_concat, List.getLast?_concat]
    exact ⟨fun t ht ↦ hdots t (List.mem_append_left _ ht), stem, rfl, hstem,
      hdots stem List.mem_concat_self⟩

/-- Names without dots make up a normal path, also with an extension. -/
theorem isNormal_concat (hfront : ∀ t ∈ front, t ≠ []) (hstem : stem ≠ [])
    (hdots : ∀ t ∈ front ++ [stem], '.' ∉ t) (hslash : ∀ t ∈ front ++ [stem], '/' ∉ t)
    (hextension : '/' ∉ extension) : Path.IsNormal ⟨0, front ++ [stem ++ extension]⟩ where
  slashes := Nat.zero_le _
  isPart := List.forall_mem_append.mpr
    ⟨fun t ht ↦ Path.isPart_of_no_dot (hfront t ht) (hdots t (List.mem_append_left _ ht)),
      List.forall_mem_singleton.mpr (Path.isPart_append hstem (hdots stem List.mem_concat_self) _)⟩
  no_slash := List.forall_mem_append.mpr
    ⟨fun t ht ↦ hslash t (List.mem_append_left _ ht),
      List.forall_mem_singleton.mpr fun hc ↦ (List.mem_append.mp hc).elim
        (hslash stem List.mem_concat_self) hextension⟩

/-- **A module name leads to the file that its pieces make up**, if none of them is empty. -/
theorem toPath_eq_ok_iff (hm : '/' ∉ m) (hextension : '/' ∉ extension) :
    toPath m extension = .ok p ↔ ∃ front stem, m = Text.joinWith "." (front ++ [stem]) ∧
      p = ⟨0, front ++ [stem ++ extension]⟩ ∧ (∀ t ∈ front, t ≠ []) ∧ stem ≠ [] ∧
        ∀ t ∈ front ++ [stem], '.' ∉ t := by
  constructor
  · intro h
    obtain ⟨front, stem, hpieces⟩ := Text.exists_pieces_concat '.' m
    have hdots : ∀ t ∈ front ++ [stem], '.' ∉ t :=
      hpieces ▸ fun t ht ↦ Text.not_mem_of_mem_pieces ht
    have hslash : ∀ t ∈ front ++ [stem], '/' ∉ t :=
      hpieces ▸ fun t ht hc ↦ hm (Text.mem_of_mem_pieces ht hc)
    unfold toPath at h
    dsimp only at h
    rw [hpieces] at h
    split at h
    · exact absurd h nofun
    · next hempty =>
      have hne : ∀ t ∈ front ++ [stem], t ≠ [] := fun t ht hnil ↦
        hempty (List.contains_iff_mem.mpr (hnil ▸ ht))
      have hfront := fun t ht ↦ hne t (List.mem_append_left [stem] ht)
      have hstem := hne stem List.mem_concat_self
      have hnormal := isNormal_concat hfront hstem hdots hslash hextension
      rw [List.dropLast_concat, List.getLastD_concat,
        foldl_join_of_isPart fun t ht ↦ ⟨hnormal.isPart t ht, hnormal.no_slash t ht⟩] at h
      refine ⟨front, stem, ?_, (Except.ok.inj h).symm, hfront, hstem, hdots⟩
      rw [← hpieces]
      exact (Text.joinWith_pieces '.' m).symm
  · rintro ⟨front, stem, rfl, rfl, hfront, hstem, hdots⟩
    have hslash : ∀ t ∈ front ++ [stem], '/' ∉ t := fun t ht hc ↦
      hm (Text.mem_joinWith_of_mem ht hc)
    exact toPath_joinWith (isNormal_concat hfront hstem hdots hslash hextension) hstem hdots

/-- The parts of a relative path, with dots between them, have no slashes. -/
theorem no_slash_joinWith (hp : p.IsRelative) : '/' ∉ Text.joinWith "." p.allParts := by
  rw [Path.allParts, Path.isAbsolute, hp.slashes]
  intro hc
  rcases Text.mem_joinWith hc with hc | ⟨part, hpart, hc⟩
  · exact absurd (List.mem_singleton.mp hc) (by decide)
  · exact hp.isNormal.no_slash part hpart hc

/-- The name of the module in a file has no slashes. -/
theorem no_slash_of_ofPath (hp : p.IsRelative) (h : ofPath p extension = .ok m) : '/' ∉ m := by
  unfold ofPath at h
  dsimp only at h
  split at h
  · obtain rfl := Except.ok.inj h
    split
    · exact fun hc ↦ absurd hc List.not_mem_nil
    · exact no_slash_joinWith (hp.of_prefix (List.take_prefix _ _))
  · exact absurd h nofun

/-- **A module name leads to a file that has this name.** -/
theorem ofPath_of_toPath (hextension : extension ≠ []) (hslash : '/' ∉ extension) (hm : '/' ∉ m)
    (h : toPath m extension = .ok p) : ofPath p extension = .ok m := by
  obtain ⟨front, stem, rfl, rfl, hfront, hstem, hdots⟩ := (toPath_eq_ok_iff hm hslash).mp h
  have hslashes : ∀ t ∈ front ++ [stem], '/' ∉ t := fun t ht hc ↦
    hm (Text.mem_joinWith_of_mem ht hc)
  have hnormal : Path.IsNormal ⟨0, front ++ [stem ++ []]⟩ :=
    isNormal_concat hfront hstem hdots hslashes List.not_mem_nil
  rw [List.append_nil] at hnormal
  exact ofPath_of_isNormal hextension hnormal

/-- The name of a file without dots leads back to it. -/
theorem exists_of_isDotFree (hextension : extension ≠ []) (hp : p.IsRelative)
    (h : IsDotFree extension p) :
    ∃ m, ofPath p extension = .ok m ∧ toPath m extension = .ok p := by
  obtain ⟨front, stem, hparts, hstem, hdots⟩ := isDotFree_iff.mp h
  obtain rfl : p = ⟨0, front ++ [stem ++ extension]⟩ := Path.eq_of_parts_eq hp.slashes hparts
  have hnormal := hp.isNormal
  have hback := toPath_joinWith hnormal hstem hdots
  have hstemNormal := isNormal_stem hnormal hstem (hdots stem List.mem_concat_self)
  exact ⟨_, ofPath_of_isNormal hextension hstemNormal, hback⟩

/-- **The names of modules and their files lead back to each other just where there are no dots**:
the name of a file leads back to it exactly if its path has no dots but those of the extension, and
each name without slashes that leads to a file is the name of this file. So files without dots have
different names. -/
theorem names_and_files_lead_back_iff (hextension : extension ≠ []) (hslash : '/' ∉ extension) :
    (∀ p : Path, p.IsRelative →
      ((∃ m, ofPath p extension = .ok m ∧ toPath m extension = .ok p) ↔
        IsDotFree extension p)) ∧
    (∀ m p, '/' ∉ m → toPath m extension = .ok p → ofPath p extension = .ok m) ∧
    ∀ p q : Path, p.IsRelative → q.IsRelative → IsDotFree extension p → IsDotFree extension q →
      ofPath p extension = ofPath q extension → p = q := by
  refine ⟨fun p hp ↦ ⟨?_, exists_of_isDotFree hextension hp⟩,
    fun m p ↦ ofPath_of_toPath hextension hslash, fun p q hp hq hpfree hqfree heq ↦ ?_⟩
  · rintro ⟨m, hname, hback⟩
    obtain ⟨front, stem, -, rfl, -, hstem, hdots⟩ :=
      (toPath_eq_ok_iff (no_slash_of_ofPath hp hname) hslash).mp hback
    exact isDotFree_iff.mpr ⟨front, stem, rfl, hstem, hdots⟩
  · obtain ⟨m, hname, hback⟩ := exists_of_isDotFree hextension hp hpfree
    obtain ⟨m', hname', hback'⟩ := exists_of_isDotFree hextension hq hqfree
    obtain rfl : m = m' := Except.ok.inj (hname.symm.trans (heq.trans hname'))
    exact Except.ok.inj (hback.symm.trans hback')

/-- With a dot for the extension, `A/B.` and its name lead back to each other, but the name of
`../B.` leads nowhere, and `A/C.` has a name of its own. -/
theorem names_and_files_lead_back_iff_dot :
    (∃ m, ofPath ⟨0, ["A", "B."]⟩ "." = .ok m ∧ toPath m "." = .ok ⟨0, ["A", "B."]⟩) ∧
    (¬ ∃ m, ofPath ⟨0, ["..", "B."]⟩ "." = .ok m ∧ toPath m "." = .ok ⟨0, ["..", "B."]⟩) ∧
    ofPath ⟨0, ["A", "B."]⟩ "." = .ok "A.B" ∧
    ofPath ⟨0, ["A", "B."]⟩ "." ≠ ofPath ⟨0, ["A", "C."]⟩ "." := by
  have hfree : IsDotFree "." ⟨0, ["A", "B."]⟩ := ⟨by decide, "B", rfl, by decide, by decide⟩
  have hfree' : IsDotFree "." ⟨0, ["A", "C."]⟩ := ⟨by decide, "C", rfl, by decide, by decide⟩
  have hrelative : Path.IsRelative ⟨0, ["A", "B."]⟩ := ⟨⟨by decide, by decide, by decide⟩, rfl⟩
  have hrelative' : Path.IsRelative ⟨0, ["A", "C."]⟩ := ⟨⟨by decide, by decide, by decide⟩, rfl⟩
  have hup : Path.IsRelative ⟨0, ["..", "B."]⟩ := ⟨⟨by decide, by decide, by decide⟩, rfl⟩
  obtain ⟨hfile, hname, hinjective⟩ :=
    @names_and_files_lead_back_iff "." (by decide) (by decide)
  refine ⟨(hfile _ hrelative).mpr hfree, fun h ↦ ?_, hname _ _ (by decide) rfl, fun h ↦ ?_⟩
  · exact ((hfile _ hup).mp h).1 ".." List.mem_cons_self (by decide)
  · exact absurd (hinjective _ _ hrelative hrelative' hfree hfree' h) (by decide)

end StyleLinter.ModuleName
