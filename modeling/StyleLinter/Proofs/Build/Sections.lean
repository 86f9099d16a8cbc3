import StyleLinter.Proofs.Configuration

/-!
# What a build file in sections declares

A build file in sections declares a package if it has a text under the name of the package, and
under that of the libraries nothing or an array of tables, each with a text under its name; none of
the texts may be empty. How an array of tables is written makes no difference, inline or with
headers (`Toml.Value.items?`), nor does how a table is (`Toml.Value.entries?`). **What is declared
is what is loaded** (`load_eq_ok_iff`), and a file that declares no package is reported, whatever
types its values have (`exists_load_eq_error`).

The libraries to work on are the declared ones. For the primary project those that are left out are
missing and one is added at the end unless it is there (`Primary.libraries_of_primary`). A workspace
that declares the result is left as it is (`Primary.libraries_of_libraries`).
-/

namespace StyleLinter

/-! ### Values -/

/-- The items of an array, whichever way it is written. -/
def Toml.Value.items? : Value → Option (List Value)
  | .array items => some items
  | .tables earlier last => some ((earlier ++ [last]).map (.table .header))
  | _ => none

/-- What a table holds, whichever way it is written. -/
def Toml.Value.entries? : Value → Option Table
  | .table _ t => some t
  | _ => none

namespace Build

variable {table : Toml.Table} {name : Text} {ls : List Text} {host : Host} {workspace : Path}
  {primary : Primary} {p : Package}

/-- Is this the text under the name of a package or a library? -/
def IsNamed (table : Toml.Table) (name : Text) : Prop :=
  table.lookup "name".toList = some (.text name) ∧ name ≠ []

/-- Does the item of an array stand for this library? -/
def IsLibrary (item : Toml.Value) (l : Text) : Prop :=
  ∃ t, item.entries? = some t ∧ IsNamed t l

/-- Are these the libraries of the file, in the order of the array? -/
inductive HasLibraries (table : Toml.Table) : List Text → Prop
  | /-- There is no array. -/
    absent : table.lookup "lean_lib".toList = none → HasLibraries table []
  | /-- Each item of the array stands for a library. -/
    array {v : Toml.Value} {items : List Toml.Value} {ls : List Text} :
      table.lookup "lean_lib".toList = some v → v.items? = some items →
      List.Forall₂ IsLibrary items ls → HasLibraries table ls

/-- Does the file declare this package with these libraries? -/
structure Declares (table : Toml.Table) (name : Text) (ls : List Text) : Prop where
  name : IsNamed table name
  libraries : HasLibraries table ls

/-- Has the file a named package, and named libraries if any? -/
structure IsDeclaration (table : Toml.Table) : Prop where
  /-- The text under the name is there and not empty. -/
  name : ∃ name, IsNamed table name
  /-- What there is under the libraries is an array of tables with a name each. -/
  libraries : ∀ v, table.lookup "lean_lib".toList = some v →
    ∃ items, v.items? = some items ∧ ∀ item ∈ items, ∃ l, IsLibrary item l

/-! ### What is declared -/

theorem textUnder?_eq_some_iff {t : Text} :
    textUnder? name table = some t ↔ table.lookup name = some (.text t) ∧ t ≠ [] := by
  unfold textUnder?
  split
  · next s hs =>
    rw [hs, Option.ite_none_left_eq_some, List.isEmpty_iff]
    constructor
    · rintro ⟨hne, he⟩
      obtain rfl := Option.some.inj he
      exact ⟨rfl, hne⟩
    · rintro ⟨he, hne⟩
      obtain rfl : s = t := by simpa using he
      exact ⟨hne, rfl⟩
  · next hnot => exact iff_of_false nofun fun h ↦ hnot t h.1

theorem libraryName?_eq_some_iff {item : Toml.Value} {l : Text} :
    libraryName? item = some l ↔ IsLibrary item l := by
  unfold libraryName?
  cases item with
  | table origin t =>
    refine textUnder?_eq_some_iff.trans ⟨fun h ↦ ⟨t, rfl, h⟩, ?_⟩
    rintro ⟨t', he, h⟩
    exact Option.some.inj he ▸ h
  | text | other | array | tables => exact iff_of_false nofun fun ⟨_, he, _⟩ ↦ absurd he nofun

/-- **The names of the libraries are read off an array**, whichever way it is written. -/
theorem libraryNames_of_items? {v : Toml.Value} {items : List Toml.Value}
    (hv : table.lookup "lean_lib".toList = some v) (hitems : v.items? = some items) :
    libraryNames table =
      match items.mapM libraryName? with
      | some ls => .ok ls
      | none => .error .unnamedLibrary := by
  cases v with
  | array items' =>
    obtain rfl := Option.some.inj hitems
    cases hnames : items'.mapM libraryName? <;> simp only [libraryNames, hv, hnames]
  | tables earlier last =>
    obtain rfl := Option.some.inj hitems
    have hmap : ((earlier ++ [last]).map (Toml.Value.table .header)).mapM libraryName? =
        (earlier ++ [last]).mapM (textUnder? "name") := List.mapM_map
    rw [hmap]
    cases hnames : (earlier ++ [last]).mapM (textUnder? "name") <;>
      simp only [libraryNames, hv, hnames]
  | text | other | table => cases hitems

/-- What is no array holds no libraries. -/
theorem libraryNames_of_not_items? {v : Toml.Value}
    (hv : table.lookup "lean_lib".toList = some v) (hitems : v.items? = none) :
    libraryNames table = .error .librariesNoArray := by
  cases v with
  | array | tables => cases hitems
  | text | other | table => simp only [libraryNames, hv]

theorem libraryNames_eq_ok_iff : libraryNames table = .ok ls ↔ HasLibraries table ls := by
  cases hv : table.lookup "lean_lib".toList with
  | none =>
    have hnames : libraryNames table = .ok [] := by simp only [libraryNames, hv]
    rw [hnames]
    constructor
    · intro h
      exact Except.ok.inj h ▸ .absent hv
    · intro h
      cases h with
      | absent => rfl
      | array hv' => cases hv.symm.trans hv'
  | some v =>
    cases hitems : v.items? with
    | none =>
      rw [libraryNames_of_not_items? hv hitems]
      refine iff_of_false (by simp) fun h ↦ ?_
      cases h with
      | absent hnone => cases hv.symm.trans hnone
      | array hv' hitems' =>
        obtain rfl := Option.some.inj (hv.symm.trans hv')
        cases hitems.symm.trans hitems'
    | some items =>
      have hnames : libraryNames table = .ok ls ↔ items.mapM libraryName? = some ls := by
        rw [libraryNames_of_items? hv hitems]
        cases items.mapM libraryName? <;> simp
      rw [hnames, mapM_eq_some_iff]
      simp only [libraryName?_eq_some_iff]
      constructor
      · exact fun h ↦ .array hv hitems h
      · intro h
        cases h with
        | absent hnone => cases hv.symm.trans hnone
        | array hv' hitems' hall =>
          obtain rfl := Option.some.inj (hv.symm.trans hv')
          obtain rfl := Option.some.inj (hitems.symm.trans hitems')
          exact hall

/-- **The names in a file are those that it declares.** -/
theorem namesIn_eq_ok_iff : namesIn table = .ok (name, ls) ↔ Declares table name ls := by
  unfold namesIn
  cases hname : textUnder? "name" table with
  | none =>
    refine iff_of_false nofun fun h ↦ ?_
    exact absurd (hname.symm.trans (textUnder?_eq_some_iff.mpr h.name)) nofun
  | some name' =>
    have hnamed : ∀ {n}, IsNamed table n ↔ name' = n := fun {n} ↦
      textUnder?_eq_some_iff.symm.trans (by rw [hname, Option.some_inj])
    show (libraryNames table).map (name', ·) = .ok (name, ls) ↔ _
    rw [map_eq_ok_iff]
    constructor
    · rintro ⟨ls', hls, he⟩
      obtain ⟨rfl, rfl⟩ := Prod.mk.inj he
      exact ⟨hnamed.mpr rfl, libraryNames_eq_ok_iff.mp hls⟩
    · rintro ⟨hn, hls⟩
      exact ⟨ls, libraryNames_eq_ok_iff.mpr hls, by rw [hnamed.mp hn]⟩

/-- **A package is declared if the values have the right types**, and none of the texts is empty. -/
theorem exists_declares_iff : (∃ name ls, Declares table name ls) ↔ IsDeclaration table := by
  constructor
  · rintro ⟨name, ls, hname, hls⟩
    refine ⟨⟨name, hname⟩, fun v hv ↦ ?_⟩
    cases hls with
    | absent hnone => exact absurd (hnone.symm.trans hv) nofun
    | @array v' items _ hv' hitems hall =>
      obtain rfl := Option.some.inj (hv'.symm.trans hv)
      exact ⟨items, hitems, exists_forall₂_iff.mp ⟨_, hall⟩⟩
  · rintro ⟨⟨name, hname⟩, hlibraries⟩
    cases hv : table.lookup "lean_lib".toList with
    | none => exact ⟨name, [], hname, .absent hv⟩
    | some v =>
      obtain ⟨items, hitems, hall⟩ := hlibraries v hv
      obtain ⟨ls, hls⟩ := exists_forall₂_iff.mpr hall
      exact ⟨name, ls, hname, .array hv hitems hls⟩

/-! ### What is loaded -/

/-- A workspace with a file in sections is loaded from it. -/
theorem outcome_load_of_readSections
    (hread : readSections host (workspace.child sectionsName) = .ok table) :
    (load host workspace).outcome = (loadSections host (workspace.child sectionsName)).outcome := by
  have hfile : isFile host (workspace.child sectionsName) = .ok true := by
    cases hbytes : host.disk.read (workspace.child sectionsName) with
    | ok bytes => exact isFile_of_read hbytes
    | error o =>
      unfold readSections at hread
      rw [hbytes] at hread
      cases o <;> exact absurd hread nofun
  show (Attempt.ofExcept (isFile host (workspace.child sectionsName)) >>= _).outcome = _
  rw [hfile]
  exact Attempt.outcome_bind _ _

/-- **What is declared is what is loaded.** -/
theorem load_eq_ok_iff (hread : readSections host (workspace.child sectionsName) = .ok table) :
    (load host workspace).outcome = .ok p ↔ Declares table p.name p.libraries := by
  rw [outcome_load_of_readSections hread]
  constructor
  · intro h
    obtain ⟨table', htable, h⟩ := Attempt.outcome_bind_eq_ok_iff.mp h
    obtain rfl := Except.ok.inj (htable.symm.trans hread)
    obtain ⟨⟨name, ls⟩, hnames, h⟩ := Attempt.outcome_bind_eq_ok_iff.mp h
    obtain ⟨-, -, h⟩ := Attempt.outcome_bind_eq_ok_iff.mp h
    obtain ⟨rfl, rfl⟩ := ofParts_eq_ok_iff.mp (mapError_eq_ok_iff.mp h)
    exact namesIn_eq_ok_iff.mp (mapError_eq_ok_iff.mp hnames)
  · intro h
    have hnames : (namesIn table).mapError (Failure.load (workspace.child sectionsName)) =
        .ok (p.name, p.libraries) := mapError_eq_ok_iff.mpr (namesIn_eq_ok_iff.mpr h)
    refine Attempt.outcome_bind_eq_ok_iff.mpr ⟨table, hread, ?_⟩
    refine Attempt.outcome_bind_eq_ok_iff.mpr ⟨(p.name, p.libraries), hnames, ?_⟩
    refine Attempt.outcome_bind_eq_ok_iff.mpr ⟨(), rfl, ?_⟩
    exact mapError_eq_ok_iff.mpr (ofParts_eq_ok_iff.mpr ⟨rfl, rfl⟩)

/-- **A file that declares no package is reported.** -/
theorem exists_load_eq_error (hread : readSections host (workspace.child sectionsName) = .ok table)
    (h : ¬ IsDeclaration table) : ∃ fault,
      (load host workspace).outcome = .error (.load (workspace.child sectionsName) fault) := by
  cases hnames : namesIn table with
  | ok names => exact absurd (exists_declares_iff.mp ⟨_, _, namesIn_eq_ok_iff.mp hnames⟩) h
  | error fault =>
    refine ⟨fault, ?_⟩
    rw [outcome_load_of_readSections hread]
    refine Attempt.outcome_bind_eq_error_iff.mpr (.inr ⟨table, hread, ?_⟩)
    exact Attempt.outcome_bind_eq_error_iff.mpr (.inl (mapError_eq_error_iff.mpr ⟨fault, hnames, rfl⟩))

/-- The libraries to work on are those of the package that is loaded. -/
theorem outcome_libraries (host : Host) (workspace : Path) (primary : Primary) :
    (libraries host workspace primary).outcome =
      (load host workspace).outcome.map primary.libraries := by
  show (load host workspace >>= _).outcome = _
  rw [Attempt.outcome_bind]
  cases (load host workspace).outcome with
  | error f => rfl
  | ok p =>
    show (if p.name = primary.name then _ else _ : Attempt (List Text)).outcome = _
    split <;> rfl

end Build

/-! ### Libraries to work on -/

namespace Primary

variable {primary : Primary} {p : Package}

/-- **The primary project works on its libraries without those that are left out**, and on the one
that is added, which comes last if it is not declared. -/
theorem libraries_of_primary (h : p.name = primary.name) : primary.libraries p =
    p.libraries.filter (· ∉ primary.excluded) ++
      if primary.extra ∈ p.libraries then [] else [primary.extra] := by
  have hkept : (p.libraries.filter fun l ↦ !primary.excluded.contains l) =
      p.libraries.filter (· ∉ primary.excluded) :=
    List.filter_congr fun l _ ↦ by simp
  have hextra : (p.libraries.filter (· ∉ primary.excluded)).contains primary.extra = true ↔
      primary.extra ∈ p.libraries := by
    rw [List.contains_iff_mem, List.mem_filter, decide_eq_true_eq,
      and_iff_left primary.extra_kept]
  unfold libraries
  rw [if_neg (not_not_intro h), hkept]
  by_cases hmem : primary.extra ∈ p.libraries
  · rw [if_pos hmem, if_pos (hextra.mpr hmem), List.append_nil]
  · rw [if_neg hmem, if_neg (mt hextra.mp hmem)]

/-- **No library that is left out is worked on.** -/
theorem not_mem_excluded_of_mem_libraries (h : p.name = primary.name) :
    ∀ l ∈ primary.libraries p, l ∉ primary.excluded := by
  intro l hl
  rw [libraries_of_primary h, List.mem_append] at hl
  rcases hl with hl | hl
  · simpa using (List.mem_filter.mp hl).2
  · split at hl
    · exact absurd hl List.not_mem_nil
    · exact List.mem_singleton.mp hl ▸ primary.extra_kept

/-- **The library that is added is worked on.** -/
theorem extra_mem_libraries (h : p.name = primary.name) :
    primary.extra ∈ primary.libraries p := by
  rw [libraries_of_primary h, List.mem_append]
  by_cases hmem : primary.extra ∈ p.libraries
  · exact .inl (List.mem_filter.mpr ⟨hmem, decide_eq_true primary.extra_kept⟩)
  · rw [if_neg hmem]
    exact .inr (List.mem_singleton_self _)

/-- **A package that declares the result** is left as it is. -/
theorem libraries_of_libraries {p' : Package} (h : p.name = primary.name)
    (h' : p'.name = primary.name) (hlibraries : p'.libraries = primary.libraries p) :
    primary.libraries p' = primary.libraries p := by
  have hfilter : (primary.libraries p).filter (· ∉ primary.excluded) = primary.libraries p :=
    List.filter_eq_self.mpr fun l hl ↦ decide_eq_true (not_mem_excluded_of_mem_libraries h l hl)
  rw [libraries_of_primary h', hlibraries, if_pos (extra_mem_libraries h), hfilter, List.append_nil]

end Primary

/-- **The libraries of a build file in sections.** Whatever types the values have, a package is
loaded exactly if the file declares one, and it is the one that is declared; otherwise the file is
reported, both when the package is loaded and when its libraries are asked for. The libraries to
work on are those of the package, unless it is the primary one: then those that are left out are
missing and the one that is added comes last, if it is not declared. So none is worked on that is
left out, the added one is, and a workspace of the primary project that declares these libraries is
left as it is. -/
theorem sections_declare_libraries {host : Host} {workspace : Path} {table : Toml.Table}
    (hread : Build.readSections host (workspace.child Build.sectionsName) = .ok table)
    (primary : Primary) :
    ((∃ p, (Build.load host workspace).outcome = .ok p) ↔ Build.IsDeclaration table) ∧
      (∀ p, (Build.load host workspace).outcome = .ok p ↔
        Build.Declares table p.name p.libraries) ∧
      (¬ Build.IsDeclaration table → ∃ fault,
        (Build.load host workspace).outcome =
            .error (.load (workspace.child Build.sectionsName) fault) ∧
          (Build.libraries host workspace primary).outcome =
            .error (.load (workspace.child Build.sectionsName) fault)) ∧
      ∀ name ls, Build.Declares table name ls →
        (name ≠ primary.name → (Build.libraries host workspace primary).outcome = .ok ls) ∧
        (name = primary.name → ∃ kept,
          kept = ls.filter (· ∉ primary.excluded) ++
            (if primary.extra ∈ ls then [] else [primary.extra]) ∧
          (Build.libraries host workspace primary).outcome = .ok kept ∧
          (∀ l ∈ kept, l ∉ primary.excluded) ∧ primary.extra ∈ kept ∧
          ∀ host' workspace' p, (Build.load host' workspace').outcome = .ok p →
            p.name = primary.name → p.libraries = kept →
            (Build.libraries host' workspace' primary).outcome = .ok kept) := by
  have hload : ∀ p, (Build.load host workspace).outcome = .ok p ↔
      Build.Declares table p.name p.libraries := fun p ↦ Build.load_eq_ok_iff hread
  have hpackage : ∀ name ls, Build.Declares table name ls → ∃ p : Package, p.name = name ∧
      p.libraries = ls ∧ (Build.libraries host workspace primary).outcome = .ok (primary.libraries p) := by
    intro name ls h
    obtain ⟨p, hp⟩ := Build.exists_ofParts_of_namesIn (Build.namesIn_eq_ok_iff.mpr h)
    obtain ⟨rfl, rfl⟩ := Build.ofParts_eq_ok_iff.mp hp
    exact ⟨p, rfl, rfl, by rw [Build.outcome_libraries, (hload p).mpr h]; rfl⟩
  refine ⟨?_, hload, fun h ↦ ?_, fun name ls h ↦ ⟨fun hother ↦ ?_, fun hprimary ↦ ?_⟩⟩
  · rw [← Build.exists_declares_iff]
    constructor
    · rintro ⟨p, hp⟩
      exact ⟨p.name, p.libraries, (hload p).mp hp⟩
    · rintro ⟨name, ls, h⟩
      obtain ⟨p, rfl, rfl, -⟩ := hpackage name ls h
      exact ⟨p, (hload p).mpr h⟩
  · obtain ⟨fault, hfault⟩ := Build.exists_load_eq_error hread h
    exact ⟨fault, hfault, by rw [Build.outcome_libraries, hfault]; rfl⟩
  · obtain ⟨p, rfl, rfl, hlibraries⟩ := hpackage name ls h
    rw [hlibraries, Primary.libraries, if_pos hother]
  · obtain ⟨p, rfl, rfl, hlibraries⟩ := hpackage name ls h
    refine ⟨primary.libraries p, Primary.libraries_of_primary hprimary, hlibraries,
      Primary.not_mem_excluded_of_mem_libraries hprimary, Primary.extra_mem_libraries hprimary, ?_⟩
    intro host' workspace' p' hp' hprimary' hkept
    rw [Build.outcome_libraries, hp']
    exact congrArg Except.ok (Primary.libraries_of_libraries hprimary hprimary' hkept)

/-! ### A build file of the primary project -/

namespace Build

/-- A workspace with this build file in sections. -/
def sectionsHost (text : Text) : Host where
  disk :=
    { tree := Files.Tree.empty.put [sectionsName] (.file {} (Utf8.encode text))
      current := [] }
  git := none

/-- A build file that declares one library twice, and one that is left out. -/
def primaryText : Text :=
  "name = \"mathlib\"\n[[lean_lib]]\nname = \"Cache\"\n[[lean_lib]]\nname = \"A\"\n" ++
    "[[lean_lib]]\nname = \"A\"\n"

/-- A build file that declares the libraries to work on. -/
def settledText : Text :=
  "name = \"mathlib\"\nlean_lib = [\x7bname = \"A\"\x7d, \x7bname = \"A\"\x7d, " ++
    "\x7bname = \"Mathlib/Tactic\"\x7d]\n"

/-- What the first file holds, with an array made by headers. -/
def primaryTable : Toml.Table :=
  [("lean_lib", .tables [[("name", .text "Cache")], [("name", .text "A")]] [("name", .text "A")]),
    ("name", .text "mathlib")]

/-- What the second file holds, with an array that stands inline. -/
def settledTable : Toml.Table :=
  [("lean_lib", .array [.table .inline [("name", .text "A")], .table .inline [("name", .text "A")],
    .table .inline [("name", .text "Mathlib/Tactic")]]), ("name", .text "mathlib")]

theorem readSections_primaryText :
    readSections (sectionsHost primaryText) (Path.here.child sectionsName) = .ok primaryTable := by
  cbv

theorem readSections_settledText :
    readSections (sectionsHost settledText) (Path.here.child sectionsName) = .ok settledTable := by
  cbv

end Build

/-- **The library that is declared twice is worked on twice**, and the one that is added comes last.
Where these libraries are declared nothing changes. -/
theorem sections_declare_libraries_primary :
    Build.readSections (Build.sectionsHost Build.primaryText) (Path.here.child Build.sectionsName) =
        .ok Build.primaryTable ∧
      Build.Declares Build.primaryTable "mathlib" ["Cache", "A", "A"] ∧
      (Build.libraries (Build.sectionsHost Build.primaryText) Path.here Primary.default).outcome =
        .ok ["A", "A", "Mathlib/Tactic"] ∧
      (Build.libraries (Build.sectionsHost Build.settledText) Path.here Primary.default).outcome =
        .ok ["A", "A", "Mathlib/Tactic"] := by
  obtain ⟨-, -, -, hprimary⟩ :=
    sections_declare_libraries Build.readSections_primaryText Primary.default
  obtain ⟨-, hsettled, -, -⟩ :=
    sections_declare_libraries Build.readSections_settledText Primary.default
  have hdeclares : Build.Declares Build.primaryTable "mathlib" ["Cache", "A", "A"] :=
    Build.namesIn_eq_ok_iff.mp rfl
  obtain ⟨kept, hkept, hlibraries, -, -, hagain⟩ := (hprimary _ _ hdeclares).2 rfl
  obtain rfl : kept = ["A", "A", "Mathlib/Tactic"].map String.toList := hkept.trans (by decide)
  -- the second file declares what the first one comes to
  have hpackage := (hsettled ⟨"mathlib", ["A", "A", "Mathlib/Tactic"].map String.toList, by decide,
    by decide⟩).mpr (Build.namesIn_eq_ok_iff.mp rfl)
  exact ⟨Build.readSections_primaryText, hdeclares, hlibraries, hagain _ _ _ hpackage rfl rfl⟩

end StyleLinter
