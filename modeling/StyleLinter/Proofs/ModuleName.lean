import StyleLinter.ModuleName
import StyleLinter.Proofs.Path

/-!
# Names of modules and their files

A module name is the path of its file, with dots for the slashes and without the extension. So **a
module name has no characters but those of its path before the extension**, and dots and slashes
(`mem_ofPath`).

On the way back each dot is taken for a slash. So the names on the path that a module name leads to
have no dots but those of the extension (`undotted_of_toPath`), and **a module name leads back to
its file exactly if there are no others** (`toPath_iff_undotted`).
-/

namespace StyleLinter.ModuleName

variable {extension m stem : Text} {front ts : List Text} {p : Path}

/-- **A module name is made of dots, slashes and what comes before the extension.** -/
theorem mem_ofPath {c : Char} (h : ofPath p extension = .ok m) (hc : c ∈ m) :
    c = '.' ∨ c = '/' ∨ c ∈ p.toText.take (p.toText.length - extension.length) := by
  unfold ofPath at h
  dsimp only at h
  split at h
  · obtain rfl := Except.ok.inj h
    rcases Text.mem_joinWith hc with hc | ⟨part, hpart, hc⟩
    · exact .inl (List.mem_singleton.mp hc)
    · rcases Path.mem_allParts hpart hc with rfl | hpart
      · exact .inr (.inl rfl)
      · have hstem := Path.mem_of_mem_parts_ofText hpart hc
        split at hstem
        · exact absurd hstem List.not_mem_nil
        · exact .inr (.inr hstem)
  · exact absurd h nofun

/-- A module name has no character that is not in what comes before the extension. -/
theorem not_mem_ofPath {c : Char} (hdot : c ≠ '.') (hslash : c ≠ '/')
    (h : ofPath p extension = .ok m)
    (hstem : c ∉ p.toText.take (p.toText.length - extension.length)) : c ∉ m := by
  intro hc
  rcases mem_ofPath h hc with rfl | rfl | hc
  · exact hdot rfl
  · exact hslash rfl
  · exact hstem hc

/-! ### There -/

/-- Does the path end in the extension, after something else? -/
def HasName (extension : Text) (p : Path) : Prop :=
  extension <:+ p.toText ∧ p.toText ≠ extension

theorem hasName_iff : HasName extension p ↔
    (Text.endsWith p.toText extension && p.toText != extension) = true := by
  rw [Bool.and_eq_true, bne_iff_ne, Text.endsWith, List.isSuffixOf_iff_suffix]
  exact Iff.rfl

/-- **A file has a name** if its path ends in the extension, after something else. -/
theorem exists_ofPath_iff : (∃ m, ofPath p extension = .ok m) ↔ HasName extension p := by
  rw [hasName_iff]
  unfold ofPath
  dsimp only
  split
  · next h => exact ⟨fun _ ↦ h, fun _ ↦ ⟨_, rfl⟩⟩
  · next h => exact ⟨nofun, fun h' ↦ absurd h' h⟩

/-- Any other path is refused. -/
theorem ofPath_eq_error_iff {i : Invalid} : ofPath p extension = .error i ↔
    ¬HasName extension p ∧ i = .notModulePath extension p.toText := by
  rw [hasName_iff]
  unfold ofPath
  dsimp only
  split
  · next h => exact ⟨nofun, fun h' ↦ absurd h h'.1⟩
  · next h => exact ⟨fun h' ↦ ⟨h, (Except.error.inj h').symm⟩, fun h' ↦ h'.2 ▸ rfl⟩

theorem toText_concat_append (front : List Text) (stem extension : Text) :
    (⟨0, front ++ [stem ++ extension]⟩ : Path).toText =
      Text.joinWith "/" (front ++ [stem]) ++ extension := by
  rw [Path.toText_of_parts (List.append_ne_nil_of_right_ne_nil _ (List.cons_ne_nil _ _)),
    Text.joinWith_concat_append]
  rfl

theorem joinWith_concat_ne_nil (hstem : stem ≠ []) (front : List Text) :
    Text.joinWith "/" (front ++ [stem]) ≠ [] := by
  rw [← List.nil_append stem, ← Text.joinWith_concat_append]
  exact List.append_ne_nil_of_right_ne_nil _ hstem

/-- A file with the extension has a name. -/
theorem hasName_concat (hstem : stem ≠ []) (front : List Text) :
    HasName extension ⟨0, front ++ [stem ++ extension]⟩ := by
  rw [HasName, toText_concat_append]
  exact ⟨List.suffix_append _ _, fun h ↦
    joinWith_concat_ne_nil hstem front (List.append_left_eq_self.mp h)⟩

/-- **The name of the module in a file** is read off what comes before the extension. -/
theorem ofPath_concat (hextension : extension ≠ []) (hstem : stem ≠ []) (front : List Text) :
    ofPath ⟨0, front ++ [stem ++ extension]⟩ extension =
      .ok (Text.joinWith "." (Path.ofText (Text.joinWith "/" (front ++ [stem]))).allParts) := by
  unfold ofPath
  dsimp only
  rw [if_pos (hasName_iff.mp (hasName_concat hstem front)), if_neg (by simpa using hextension), toText_concat_append, List.length_append,
    Nat.add_sub_cancel, List.take_left]

/-- The name of a module whose names are without dots is made of these. -/
theorem ofPath_of_isNormal (hextension : extension ≠ []) (hp : Path.IsNormal ⟨0, front ++ [stem]⟩) :
    ofPath ⟨0, front ++ [stem ++ extension]⟩ extension =
      .ok (Text.joinWith "." (front ++ [stem])) := by
  have hstem : stem ≠ [] :=
    (Path.isPart_iff.mp (hp.isPart stem List.mem_concat_self)).1
  have hread := Path.ofText_toText hp
  rw [Path.toText_of_parts (List.append_ne_nil_of_right_ne_nil _ (List.cons_ne_nil _ _))] at hread
  rw [ofPath_concat hextension hstem]
  exact congrArg (fun q : Path ↦ Except.ok (Text.joinWith "." q.allParts)) hread

/-! ### And back -/

/-- Names are put below one another. -/
theorem foldl_join_of_isPart (hts : ∀ t ∈ ts, Path.isPart t = true ∧ '/' ∉ t) (p : Path) :
    ts.foldl (fun p part ↦ p / Path.ofText part) p = p.below ts := by
  induction ts generalizing p with
  | nil => exact Path.eq_of_parts_eq rfl (List.append_nil _).symm
  | cons t ts ih =>
    obtain ⟨hpart, hslash⟩ := hts t List.mem_cons_self
    rw [List.foldl_cons, ih (fun u hu ↦ hts u (List.mem_cons_of_mem _ hu)),
      Path.ofText_of_isPart hpart hslash, Path.join_eq_below rfl, Path.below_below]
    rfl

/-- What no text has is nowhere in the names that the texts add to a path. -/
theorem not_mem_of_mem_foldl_join {c : Char} (hts : ∀ t ∈ ts, c ∉ t) (hp : ∀ n ∈ p.parts, c ∉ n) :
    ∀ n ∈ (ts.foldl (fun p part ↦ p / Path.ofText part) p).parts, c ∉ n := by
  induction ts generalizing p with
  | nil => exact hp
  | cons t ts ih =>
    refine ih (fun u hu ↦ hts u (List.mem_cons_of_mem _ hu)) fun n hn hc ↦ ?_
    rw [Path.parts_join] at hn
    rcases List.mem_append.mp hn with hn | hn
    · split at hn
      · exact List.not_mem_nil hn
      · exact hp n hn hc
    · exact hts t List.mem_cons_self (Path.mem_of_mem_parts_ofText hn hc)

/-- A file is where its name without the extension is, if this is a name without dots. -/
theorem isNormal_stem (hp : Path.IsNormal ⟨0, front ++ [stem ++ extension]⟩) (hstem : stem ≠ [])
    (hdot : '.' ∉ stem) : Path.IsNormal ⟨0, front ++ [stem]⟩ where
  slashes := Nat.zero_le _
  isPart := List.forall_mem_append.mpr ⟨fun t ht ↦ hp.isPart t (List.mem_append_left _ ht),
    List.forall_mem_singleton.mpr (Path.isPart_of_no_dot hstem hdot)⟩
  no_slash := List.forall_mem_append.mpr ⟨fun t ht ↦ hp.no_slash t (List.mem_append_left _ ht),
    List.forall_mem_singleton.mpr fun hc ↦
      hp.no_slash _ List.mem_concat_self (List.mem_append_left _ hc)⟩

/-- Is there no dot in the names on a path but those of the extension? -/
def Undotted (extension : Text) (p : Path) : Prop :=
  ∃ front stem, p.parts = front ++ [stem ++ extension] ∧ ∀ t ∈ front ++ [stem], '.' ∉ t

theorem undotted_concat_iff : Undotted extension ⟨0, front ++ [stem ++ extension]⟩ ↔
    ∀ t ∈ front ++ [stem], '.' ∉ t := by
  constructor
  · rintro ⟨front', stem', hparts, h⟩
    obtain ⟨rfl, hlast⟩ := List.append_inj' hparts rfl
    rwa [List.append_cancel_right (List.cons.inj hlast).1]
  · exact fun h ↦ ⟨front, stem, rfl, h⟩

/-- What is put below a path without dots is without dots up to its extension. -/
theorem undotted_join (hlong : 2 ≤ extension.length) (hextension : '/' ∉ extension) {last : Text}
    (hlast : '.' ∉ last) (hp : ∀ n ∈ p.parts, '.' ∉ n) :
    Undotted extension (p / Path.ofText (last ++ extension)) := by
  obtain ⟨names, name, hnames⟩ := Text.exists_pieces_concat '/' last
  have hdots : ∀ t ∈ names ++ [name], '.' ∉ t := by
    rw [← hnames]
    exact fun t ht hc ↦ hlast (Text.mem_of_mem_pieces ht hc)
  have hpart : Path.isPart (name ++ extension) = true := by
    refine Path.isPart_iff.mpr ⟨?_, fun hdot ↦ ?_⟩
    · exact List.append_ne_nil_of_right_ne_nil _ (List.ne_nil_of_length_pos (by omega))
    · have hlength : (name ++ extension).length = 1 := congrArg List.length hdot
      rw [List.length_append] at hlength
      omega
  -- the extension goes to the last name
  have hparts : (Path.ofText (last ++ extension)).parts =
      names.filter Path.isPart ++ [name ++ extension] := by
    show (Text.pieces '/' (last ++ extension)).filter Path.isPart = _
    rw [Text.pieces_append_of_not_mem hextension hnames, List.filter_append,
      List.filter_cons_of_pos hpart]
    rfl
  rw [Undotted, Path.parts_join, hparts, ← List.append_assoc]
  refine ⟨_, name, rfl, fun t ht ↦ ?_⟩
  rw [List.append_assoc] at ht
  rcases List.mem_append.mp ht with ht | ht
  · split at ht
    · exact absurd ht List.not_mem_nil
    · exact hp t ht
  · exact hdots t (List.Sublist.mem ht (List.filter_sublist.append_right [name]))

/-- **A module name leads to a file without dots**, those of the extension apart. -/
theorem undotted_of_toPath (hlong : 2 ≤ extension.length) (hextension : '/' ∉ extension)
    (h : toPath m extension = .ok p) : Undotted extension p := by
  unfold toPath at h
  dsimp only at h
  split at h
  · exact absurd h nofun
  · obtain ⟨init, last, hpieces⟩ := Text.exists_pieces_concat '.' m
    have hdots : ∀ t ∈ init ++ [last], '.' ∉ t :=
      hpieces ▸ fun t ht ↦ Text.not_mem_of_mem_pieces ht
    rw [hpieces, List.dropLast_concat, List.getLastD_concat, List.foldl_append] at h
    obtain rfl := Except.ok.inj h
    exact undotted_join hlong hextension
      (hdots last List.mem_concat_self)
      (not_mem_of_mem_foldl_join (fun t ht ↦ hdots t (List.mem_append_left _ ht)) nofun)

/-- **A module name that is made of names without dots leads to their file.** -/
theorem toPath_joinWith (hp : Path.IsNormal ⟨0, front ++ [stem ++ extension]⟩) (hstem : stem ≠ [])
    (hdots : ∀ t ∈ front ++ [stem], '.' ∉ t) :
    toPath (Text.joinWith "." (front ++ [stem])) extension =
      .ok ⟨0, front ++ [stem ++ extension]⟩ := by
  have hpieces : Text.pieces '.' (Text.joinWith "." (front ++ [stem])) = front ++ [stem] :=
    Text.pieces_joinWith (List.append_ne_nil_of_right_ne_nil _ (List.cons_ne_nil _ _)) hdots
  have hnames : (front ++ [stem]).contains [] = false := by
    rw [List.contains_eq_mem, decide_eq_false_iff_not, List.mem_append, List.mem_singleton, not_or]
    exact ⟨fun hnil ↦ (Path.isPart_iff.mp (hp.isPart [] (List.mem_append_left _ hnil))).1 rfl,
      hstem.symm⟩
  unfold toPath
  dsimp only
  rw [hpieces, hnames, if_neg Bool.false_ne_true, List.dropLast_concat, List.getLastD_concat,
    foldl_join_of_isPart fun t ht ↦ ⟨hp.isPart t ht, hp.no_slash t ht⟩]
  rfl

/-- **A module name leads back to its file exactly if its path has no dots**, those of the extension
apart. -/
theorem toPath_iff_undotted (hlong : 2 ≤ extension.length) (hextension : '/' ∉ extension)
    (hp : Path.IsNormal ⟨0, front ++ [stem ++ extension]⟩) (hstem : stem ≠ [])
    (h : ofPath ⟨0, front ++ [stem ++ extension]⟩ extension = .ok m) :
    toPath m extension = .ok ⟨0, front ++ [stem ++ extension]⟩ ↔
      Undotted extension ⟨0, front ++ [stem ++ extension]⟩ := by
  refine ⟨undotted_of_toPath hlong hextension, fun hundotted ↦ ?_⟩
  have hdots := undotted_concat_iff.mp hundotted
  have hnormal := isNormal_stem hp hstem (hdots stem List.mem_concat_self)
  have hne : extension ≠ [] := List.ne_nil_of_length_pos (by omega)
  rw [ofPath_of_isNormal hne hnormal] at h
  obtain rfl := Except.ok.inj h
  exact toPath_joinWith hp hstem hdots

end StyleLinter.ModuleName
