import StyleLinter.Aggregator
import StyleLinter.Proofs.Discovery.Selected
import StyleLinter.Proofs.Text.Newlines
import StyleLinter.Proofs.Utf8

/-!
# Bringing one aggregator up to date

The aggregator of a root is the file beside the root, so **different roots have different
aggregators** (`path_injective`). When it has been brought up to date it says what the modules of
the root are (`current_of_update`), no other place of the tree has changed (`spec_of_update`), and
what it says stays as it is while its place does (`current_of_frame`).
-/

namespace StyleLinter.Aggregator

open Discovery Files

variable {s : Search} {host host' : Host} {root root' : Path} {b : Bool}

/-! ### Paths -/

/-- Is this a root with an aggregator beside it? It leads down, and its text says what it is. -/
structure IsRoot (root : Path) : Prop where
  normal : root.IsNormal
  leadsDown : root.LeadsDown

theorem IsRoot.isName (h : IsRoot root) {t : Text} (ht : t ∈ root.parts) : Tree.isName t = true :=
  Tree.isName_iff.mpr ⟨(Path.isPart_iff.mp (h.normal.isPart t ht)).1, (h.leadsDown.parts t ht).1,
    (h.leadsDown.parts t ht).2, h.normal.no_slash t ht⟩

theorem IsRoot.exists_concat (h : IsRoot root) : ∃ front name, root = ⟨0, front ++ [name]⟩ := by
  obtain ⟨front, name, hparts⟩ :=
    (List.eq_nil_or_concat root.parts).resolve_left h.leadsDown.parts_ne_nil
  rw [List.concat_eq_append] at hparts
  exact ⟨front, name, Path.eq_of_parts_eq h.leadsDown.slashes hparts⟩

variable {front : List Text} {name extension : Text}

/-- A name that is followed by an extension is a name. -/
theorem append_ne_dots (hpart : Path.isPart name = true) (hdots : name ≠ "..") (extension : Text) :
    name ++ extension ≠ [] ∧ name ++ extension ≠ "." ∧ name ++ extension ≠ ".." := by
  obtain ⟨hne, hdot⟩ := Path.isPart_iff.mp hpart
  obtain ⟨c, rest, rfl⟩ := List.exists_cons_of_ne_nil hne
  refine ⟨List.cons_ne_nil _ _, fun h ↦ ?_, fun h ↦ ?_⟩
  · have hcons : c :: (rest ++ extension) = ['.'] := h
    obtain ⟨rfl, hrest⟩ := List.cons.inj hcons
    exact hdot (congrArg _ (List.append_eq_nil_iff.mp hrest).1)
  · have hcons : c :: (rest ++ extension) = ['.', '.'] := h
    obtain ⟨rfl, hrest⟩ := List.cons.inj hcons
    cases rest with
    | nil => exact hdot rfl
    | cons d rest =>
      obtain ⟨rfl, hrest'⟩ := List.cons.inj hrest
      exact hdots (congrArg _ (congrArg _ (List.append_eq_nil_iff.mp hrest').1))

/-- The path beside a root leads down as the root does. -/
theorem isRoot_append (h : IsRoot ⟨0, front ++ [name]⟩) (hextension : '/' ∉ extension) :
    IsRoot ⟨0, front ++ [name ++ extension]⟩ := by
  have hmem : name ∈ front ++ [name] := List.mem_append_right _ (List.mem_singleton_self _)
  obtain ⟨hne, hdot, hdots⟩ := append_ne_dots (h.normal.isPart name hmem)
    (h.leadsDown.parts name hmem).2 extension
  have hslash : '/' ∉ name ++ extension := by
    rw [List.mem_append, not_or]
    exact ⟨h.normal.no_slash name hmem, hextension⟩
  have hcases {t : Text} (ht : t ∈ front ++ [name ++ extension]) :
      t ∈ front ++ [name] ∨ t = name ++ extension :=
    (List.mem_append.mp ht).imp (List.mem_append_left _) List.mem_singleton.mp
  refine ⟨⟨Nat.zero_le _, fun t ht ↦ ?_, fun t ht ↦ ?_⟩,
    ⟨rfl, List.append_ne_nil_of_right_ne_nil _ (List.cons_ne_nil _ _), fun t ht ↦ ?_⟩⟩
  · rcases hcases ht with ht | rfl
    · exact h.normal.isPart t ht
    · exact Path.isPart_iff.mpr ⟨hne, hdot⟩
  · rcases hcases ht with ht | rfl
    · exact h.normal.no_slash t ht
    · exact hslash
  · rcases hcases ht with ht | rfl
    · exact h.leadsDown.parts t ht
    · exact ⟨hdot, hdots⟩

theorem toText_concat (front : List Text) (name : Text) :
    (⟨0, front ++ [name]⟩ : Path).toText = Text.joinWith "/" (front ++ [name]) :=
  Path.toText_of_parts (List.append_ne_nil_of_right_ne_nil _ (List.cons_ne_nil _ _))

/-- What follows a name belongs to it. -/
theorem isName_append (hname : Tree.isName name = true) (hextension : '/' ∉ extension) :
    Tree.isName (name ++ extension) = true := by
  obtain ⟨hne, hdot, hdots, hslash⟩ := Tree.isName_iff.mp hname
  obtain ⟨hne', hdot', hdots'⟩ :=
    append_ne_dots (Path.isPart_iff.mpr ⟨hne, hdot⟩) hdots extension
  refine Tree.isName_iff.mpr ⟨hne', hdot', hdots', ?_⟩
  rw [List.mem_append, not_or]
  exact ⟨hslash, hextension⟩

theorem forall_isName_append (hnames : ∀ n ∈ front ++ [name], Tree.isName n = true)
    (hextension : '/' ∉ extension) : ∀ n ∈ front ++ [name ++ extension], Tree.isName n = true :=
  List.forall_mem_append.mpr ⟨fun n hn ↦ hnames n (List.mem_append_left _ hn),
    List.forall_mem_singleton.mpr (isName_append (hnames name List.mem_concat_self) hextension)⟩

/-- **The aggregator of what is below a path is below it too**, beside the directory. -/
theorem path_below_concat {p : Path} (hp : p.IsNormal)
    (hnames : ∀ n ∈ front ++ [name], Tree.isName n = true) (hextension : '/' ∉ extension) :
    path (p.below (front ++ [name])) extension = p.below (front ++ [name ++ extension]) := by
  have hconcat (last : Text) : p.parts ++ (front ++ [last]) ≠ [] :=
    List.append_ne_nil_of_right_ne_nil _
      (List.append_ne_nil_of_right_ne_nil _ (List.cons_ne_nil _ _))
  have htext : aggregatorText (p.below (front ++ [name])).toText extension =
      (p.below (front ++ [name ++ extension])).toText := by
    rw [aggregatorText, Path.toText_of_parts (hconcat _), Path.toText_of_parts (hconcat _),
      Path.below, Path.below, ← List.append_assoc p.parts, ← List.append_assoc p.parts,
      List.append_assoc, Text.joinWith_concat_append]
  have hbelow : IsBelow (p.below (front ++ [name ++ extension])) p :=
    ⟨rfl, _, List.append_ne_nil_of_right_ne_nil _ (List.cons_ne_nil _ _),
      forall_isName_append hnames hextension, rfl⟩
  rw [path, htext, Path.ofText_toText (hbelow.isNormal hp)]

/-- **The aggregator of a root is the file beside it**, named after the root. -/
theorem path_concat (h : IsRoot ⟨0, front ++ [name]⟩) (hextension : '/' ∉ extension) :
    path ⟨0, front ++ [name]⟩ extension = ⟨0, front ++ [name ++ extension]⟩ :=
  path_below_concat (Path.isNormal_ofText []) (fun _ ↦ h.isName) hextension

theorem isRoot_path (h : IsRoot root) (hextension : '/' ∉ extension) :
    IsRoot (path root extension) := by
  obtain ⟨front, name, rfl⟩ := h.exists_concat
  rw [path_concat h hextension]
  exact isRoot_append h hextension

/-- **Different roots have different aggregators.** -/
theorem path_injective (h : IsRoot root) (h' : IsRoot root') (hextension : '/' ∉ extension)
    (he : path root extension = path root' extension) : root = root' := by
  obtain ⟨front, name, rfl⟩ := h.exists_concat
  obtain ⟨front', name', rfl⟩ := h'.exists_concat
  rw [path_concat h hextension, path_concat h' hextension] at he
  obtain ⟨rfl, hlast⟩ := List.append_inj' (Path.mk.inj he).2 rfl
  rw [List.append_cancel_right (List.cons.inj hlast).1]

theorem toText_path (h : IsRoot root) (hextension : '/' ∉ extension) :
    (path root extension).toText = aggregatorText root extension := by
  obtain ⟨front, name, rfl⟩ := h.exists_concat
  rw [path_concat h hextension, aggregatorText, toText_concat, toText_concat,
    Text.joinWith_concat_append]

/-- A root is below another path if the directory that it is in begins with this path. -/
theorem isBelow_concat_iff (h : IsRoot ⟨0, front ++ [name]⟩) :
    IsBelow ⟨0, front ++ [name]⟩ root' ↔ root'.slashes = 0 ∧ root'.parts <+: front := by
  constructor
  · rintro ⟨hslashes, names, hne, -, hparts⟩
    obtain ⟨rest, last, hconcat⟩ := (List.eq_nil_or_concat names).resolve_left hne
    rw [hconcat, List.concat_eq_append, ← List.append_assoc] at hparts
    obtain ⟨rfl, -⟩ := List.append_inj' hparts rfl
    exact ⟨hslashes.symm, List.prefix_append _ _⟩
  · rintro ⟨hslashes, rest, rfl⟩
    refine ⟨hslashes.symm, rest ++ [name], List.append_ne_nil_of_right_ne_nil _ (List.cons_ne_nil _ _),
      fun n hn ↦ h.isName ?_, List.append_assoc ..⟩
    rw [List.append_assoc]
    exact List.mem_append_right _ hn

/-- **The aggregator of a root is below another path exactly if the root itself is.** -/
theorem isBelow_path_iff (h : IsRoot root) (hextension : '/' ∉ extension) :
    IsBelow (path root extension) root' ↔ IsBelow root root' := by
  obtain ⟨front, name, rfl⟩ := h.exists_concat
  rw [path_concat h hextension, isBelow_concat_iff h,
    isBelow_concat_iff (isRoot_append h hextension)]

/-- The aggregator of a root has the extension, and something before it. -/
theorem hasExtension_path (h : IsRoot root) (hextension : '/' ∉ extension) {front : List Text}
    {last : Text} (hlast : (path root extension).parts = front ++ [last]) :
    hasExtension extension last = true := by
  obtain ⟨front', name, rfl⟩ := h.exists_concat
  rw [path_concat h hextension] at hlast
  obtain ⟨-, hname⟩ := List.append_inj' hlast rfl
  obtain rfl := (List.cons.inj hname).1
  have hne : name ≠ [] :=
    (Path.isPart_iff.mp (h.normal.isPart name (List.mem_append_right _ (List.mem_singleton_self _)))).1
  rw [hasExtension, Bool.and_eq_true, bne_iff_ne]
  refine ⟨List.isSuffixOf_iff_suffix.mpr (List.suffix_append _ _), fun he ↦ hne ?_⟩
  exact List.append_left_eq_self.mp he

/-! ### Reading an aggregator -/

variable {target : Path} {spot : Spot} {modules : List Text}

/-- **What an aggregator says depends on its place only.** -/
theorem current_of_frame (hs : host.disk.spot target = .ok spot)
    (hs' : host'.disk.spot target = .ok spot)
    (hnode : host'.disk.tree.node? spot.place = host.disk.tree.node? spot.place) :
    current host' target = current host target := by
  have hexists : host'.disk.exists? target = host.disk.exists? target := by
    rw [Disk.exists?, Disk.exists?, Disk.kind?_of_spot hs', Disk.kind?_of_spot hs, Disk.kindAt,
      Disk.kindAt, hnode]
  have hread : host'.disk.read target = host.disk.read target := by
    rw [Disk.read, Disk.read, hs', hs]
    dsimp only
    rw [hnode]
  rw [current, current, hexists, hread]

theorem current_eq_some_iff {t : Text} : current host target = .ok (some t) ↔
    host.disk.exists? target = .ok true ∧ ∃ bytes t', host.disk.read target = .ok bytes ∧
      Utf8.decode bytes = .ok t' ∧ t = Text.unifyNewlines t' := by
  unfold current
  constructor
  · intro h
    split at h
    · exact absurd h nofun
    · exact absurd h nofun
    · next hexists =>
      split at h
      · exact absurd h nofun
      · next bytes hread =>
        split at h
        · exact absurd h nofun
        · next t' hdecode =>
          exact ⟨hexists, bytes, t', hread, hdecode, (Option.some.inj (Except.ok.inj h)).symm⟩
  · rintro ⟨hexists, bytes, t', hread, hdecode, rfl⟩
    simp only [hexists, hread, hdecode]

/-- What has been read can be read. -/
theorem read_of_current {text : Option Text} (h : current host target = .ok text)
    (hexists : host.disk.exists? target = .ok true) : ∃ bytes, host.disk.read target = .ok bytes := by
  rw [current, hexists] at h
  dsimp only at h
  split at h
  · exact absurd h nofun
  · next bytes hread => exact ⟨bytes, hread⟩

theorem rights_of_current {text : Option Text} (h : current host target = .ok text)
    (hs : host.disk.spot target = .ok spot) {rights : Rights} {contents : Bytes}
    (hnode : host.disk.tree.node? spot.place = some (.file rights contents)) :
    rights.read = true := by
  have hexists : host.disk.exists? target = .ok true := by
    rw [Disk.exists?, Disk.kind?_of_spot hs, Disk.kindAt, hnode]
    rfl
  obtain ⟨bytes, hread⟩ := read_of_current h hexists
  obtain ⟨spot', rights', hs', hnode', hrights⟩ := Disk.read_eq_ok_iff.mp hread
  obtain rfl := Except.ok.inj (hs.symm.trans hs')
  obtain ⟨rfl, -⟩ := Node.file.inj (Option.some.inj (hnode.symm.trans hnode'))
  exact hrights

theorem not_mem_render {c : Char} (hc : c ∉ "import ".toList) (hnewline : c ≠ '\n')
    (h : ∀ m ∈ modules, c ∉ m) : c ∉ render modules := by
  intro hmem
  obtain ⟨m, hm, hmem⟩ := List.mem_flatMap.mp hmem
  rw [List.mem_append, List.mem_append, List.mem_singleton] at hmem
  rcases hmem with (hmem | hmem) | rfl
  · exact hc hmem
  · exact h m hm hmem
  · exact hnewline rfl

/-! ### Turns -/

theorem compare_eq_ok_iff {c : Path × List Text × Option Text} :
    (compare s host root).outcome = .ok c ↔
      ∃ modules text, (s.modules host root).outcome = .ok modules ∧
        current host (s.base / path root s.extension) = .ok text ∧
        c = (s.base / path root s.extension, modules, text) := by
  unfold compare
  constructor
  · intro h
    obtain ⟨modules, hmodules, h⟩ := Attempt.outcome_bind_eq_ok_iff.mp h
    obtain ⟨text, htext, h⟩ := Attempt.outcome_bind_eq_ok_iff.mp h
    exact ⟨modules, text, hmodules, htext, (Except.ok.inj h).symm⟩
  · rintro ⟨modules, text, hmodules, htext, rfl⟩
    refine Attempt.outcome_bind_eq_ok_iff.mpr ⟨modules, hmodules, ?_⟩
    exact Attempt.outcome_bind_eq_ok_iff.mpr ⟨text, htext, rfl⟩

/-- What comes after a comparison has its parts to go by. -/
theorem exists_compare_iff {P : Path × List Text × Option Text → Prop} :
    (∃ c, (compare s host root).outcome = .ok c ∧ P c) ↔
      ∃ modules text, (s.modules host root).outcome = .ok modules ∧
        current host (s.base / path root s.extension) = .ok text ∧
        P (s.base / path root s.extension, modules, text) := by
  simp only [compare_eq_ok_iff]
  constructor
  · rintro ⟨_, ⟨modules, text, hmodules, htext, rfl⟩, h⟩
    exact ⟨modules, text, hmodules, htext, h⟩
  · rintro ⟨modules, text, hmodules, htext, h⟩
    exact ⟨_, ⟨modules, text, hmodules, htext, rfl⟩, h⟩

theorem check_eq_ok_iff : (check s host root).outcome = .ok b ↔
    ∃ modules text, (s.modules host root).outcome = .ok modules ∧
      current host (s.base / path root s.extension) = .ok text ∧
      b = decide (text = some (render modules)) := by
  rw [check, Attempt.outcome_bind_eq_ok_iff, exists_compare_iff]
  refine exists₂_congr fun modules text ↦ and_congr_right fun _ ↦ and_congr_right fun _ ↦ ?_
  dsimp only
  by_cases hupToDate : text = some (render modules)
  · rw [if_pos hupToDate, decide_eq_true hupToDate]
    exact ⟨fun h ↦ (Except.ok.inj h).symm, fun h ↦ h ▸ rfl⟩
  · rw [if_neg hupToDate, decide_eq_false hupToDate]
    exact ⟨fun h ↦ (Except.ok.inj h).symm, fun h ↦ h ▸ rfl⟩

/-- **The turn of a root**: it is up to date, or what it should say is written. -/
theorem update_eq_ok_iff : (update s host root).outcome = .ok (host', b) ↔
    ∃ modules text, (s.modules host root).outcome = .ok modules ∧
      current host (s.base / path root s.extension) = .ok text ∧
      (text = some (render modules) ∧ host' = host ∧ b = true ∨
        text ≠ some (render modules) ∧ b = false ∧
          ∃ disk, host.disk.write (s.base / path root s.extension) (Utf8.encode (render modules)) =
            .ok disk ∧ host' = host.withDisk disk) := by
  rw [update, Attempt.outcome_bind_eq_ok_iff, exists_compare_iff]
  refine exists₂_congr fun modules text ↦ and_congr_right fun _ ↦ and_congr_right fun _ ↦ ?_
  dsimp only
  constructor
  · intro h
    split at h
    · next hupToDate =>
      obtain ⟨rfl, rfl⟩ := Prod.mk.inj (Except.ok.inj h)
      exact .inl ⟨hupToDate, rfl, rfl⟩
    · next hstale =>
      split at h
      · exact absurd h nofun
      · next disk hwrite =>
        obtain ⟨rfl, rfl⟩ := Prod.mk.inj (Except.ok.inj h)
        exact .inr ⟨hstale, rfl, disk, hwrite, rfl⟩
  · rintro (⟨hupToDate, rfl, rfl⟩ | ⟨hstale, rfl, disk, hwrite, rfl⟩)
    · rw [if_pos hupToDate]
      rfl
    · rw [if_neg hstale, hwrite]
      rfl

/-- What is read of the aggregator differs from what it should say, so it is written. -/
theorem update_of_stale {text : Option Text} {disk : Disk}
    (hmodules : (s.modules host root).outcome = .ok modules)
    (htext : current host (s.base / path root s.extension) = .ok text)
    (hstale : text ≠ some (render modules))
    (hwrite : host.disk.write (s.base / path root s.extension) (Utf8.encode (render modules)) =
      .ok disk) :
    (update s host root).outcome = .ok (host.withDisk disk, false) := by
  rw [update_eq_ok_iff]
  exact ⟨modules, text, hmodules, htext, .inr ⟨hstale, rfl, disk, hwrite, rfl⟩⟩

/-- **A turn changes the place of its aggregator at most**, and a file is there afterwards. -/
theorem spec_of_update (h : (update s host root).outcome = .ok (host', b)) :
    host.disk.Grown host'.disk ∧ host'.git = host.git ∧
      ∃ spot, host'.disk.spot (s.base / path root s.extension) = .ok spot ∧
        host'.disk.kindAt spot.place = some .file ∧
        ∀ place, place ≠ spot.place → host'.disk.tree.node? place = host.disk.tree.node? place := by
  rw [update_eq_ok_iff] at h
  obtain ⟨modules, text, -, htext, ⟨rfl, rfl, -⟩ | ⟨-, -, disk, hwrite, rfl⟩⟩ := h
  · obtain ⟨-, bytes, -, hread, -⟩ := current_eq_some_iff.mp htext
    obtain ⟨spot, rights, hs, hnode, -⟩ := Disk.read_eq_ok_iff.mp hread
    exact ⟨.refl _, rfl, spot, hs, (by rw [Disk.kindAt, hnode]), fun _ _ ↦ rfl⟩
  · obtain ⟨hgrown, spot, rights, hs, hnode, -, hframe⟩ := Disk.spec_of_write hwrite
    have hkind : disk.kindAt spot.place = some .file := by rw [Disk.kindAt, hnode]
    exact ⟨hgrown, rfl, spot, hs, hkind, hframe⟩

/-- **After its turn the aggregator of a root says what its modules are.** -/
theorem current_of_update (h : (update s host root).outcome = .ok (host', b))
    (hmodules : (s.modules host root).outcome = .ok modules) (hreturn : ∀ m ∈ modules, '\r' ∉ m) :
    current host' (s.base / path root s.extension) = .ok (some (render modules)) := by
  rw [update_eq_ok_iff] at h
  obtain ⟨modules', text, hmodules', htext, ⟨rfl, rfl, -⟩ | ⟨-, -, disk, hwrite, rfl⟩⟩ := h
  · obtain rfl := Except.ok.inj (hmodules.symm.trans hmodules')
    exact htext
  · obtain rfl := Except.ok.inj (hmodules.symm.trans hmodules')
    obtain ⟨hgrown, spot, rights, hs, hnode, hnew, -⟩ := Disk.spec_of_write hwrite
    have hnewline : '\r' ∉ render modules := not_mem_render (by decide) (by decide) hreturn
    have hexists : disk.exists? (s.base / path root s.extension) = .ok true := by
      rw [Disk.exists?, Disk.kind?_of_spot hs, Disk.kindAt, hnode]
      rfl
    have hread : rights.read = true := by
      cases hold : host.disk.tree.node? spot.place with
      | none => rw [hnew hold]
      | some n =>
        -- the aggregator was there and has been read
        have hspot : host.disk.spot _ = .ok spot :=
          hgrown.spot_of_node? hs (Option.ne_none_iff_exists'.mpr ⟨n, hold⟩)
        obtain ⟨old, rfl⟩ := hgrown.tree.within.file_of_file hold hnode
        exact rights_of_current htext hspot hold
    refine current_eq_some_iff.mpr ⟨hexists, Utf8.encode (render modules), render modules, ?_,
      Utf8.decode_encode _, (Text.unifyNewlines_eq_self hnewline).symm⟩
    show disk.read _ = _
    rw [Disk.read, hs]
    dsimp only
    rw [hnode]
    exact if_pos hread

end StyleLinter.Aggregator
