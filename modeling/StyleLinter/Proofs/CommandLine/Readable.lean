import StyleLinter.Proofs.CommandLine.Clean

/-!
# Lists that an update cannot read back

An update writes what it found as it stands, and nothing in a list is escaped. So it can write a
list that the next command does not read, or reads as something else: a colon in the name of a file
makes one field too many, a line feed makes two lines, a number sign in front makes a comment, and
blanks at the ends are lost. **The update itself ends well all the same.**

`update_can_be_read_iff` says when it goes well: the paths of the findings must be such that a list
can hold them as they stand. That this is enough was shown with the list itself
(`Pass.isListable_of_entries`). That it is needed is not a matter of the one path: whatever a list
is read as, **all of its records are listable** (`Registry.isListable_of_ofFile`), so a finding with
any other path has no record.
-/

namespace StyleLinter

/-- **A finding that a list accepts has a path that a list can hold.** -/
theorem Registry.isListable_of_exempts {reg : Registry} {v : Violation}
    (hr : ∀ r ∈ reg.records, r.IsListable) (h : reg.exempts v = true) :
    ExceptionList.IsListable v.key.path := by
  obtain ⟨r, hmem, he⟩ := List.any_eq_true.mp h
  have hkey : r.key = v.key := of_decide_eq_true he
  exact hkey ▸ (hr r hmem).path

namespace CommandLine

variable {s : Settings} {host : Host}

/-- **When the list of an update can be read.** After an update that ends well, the list makes a
registry that accepts all that was found exactly if the path of each finding can stand in a list as
it is, and reading the list is not denied. -/
theorem update_can_be_read_iff {verbose : Bool} {out err : Text} (hupdate : s.update = true)
    (h : (run host ⟨verbose, .lint, s⟩).ending = .exit 0 out err) :
    ∃ config old paths vs, s.config = .ok config ∧
      (Registry.ofFileIfThere host s.list false).outcome = .ok old ∧
      s.sources host = .ok paths ∧
      (s.run config old).reported host paths = .ok vs ∧
      ((∃ reg, Registry.ofFile (run host ⟨verbose, .lint, s⟩).host s.list = .ok reg ∧
          ∀ v ∈ vs, reg.exempts v = true) ↔
        (∀ v ∈ vs, ExceptionList.IsListable v.key.path) ∧
          (run host ⟨verbose, .lint, s⟩).host.disk.read s.list ≠ .error (.refused .denied)) := by
  obtain ⟨p, hwritable, hcontents, -⟩ := exists_pass_of_update hupdate h
  refine ⟨p.config, p.registry, p.paths, p.entries, p.config_eq, p.registry_eq, p.paths_eq,
    p.reported_eq, ?_, ?_⟩
  · rintro ⟨reg, hreg, hexempts⟩
    have hr := Registry.isListable_of_ofFile hreg
    exact ⟨fun v hv ↦ Registry.isListable_of_exempts hr (hexempts v hv),
      Registry.not_denied_of_ofFile hreg⟩
  · rintro ⟨hentries, hread⟩
    have hr := p.isListable_of_entries hentries hwritable
    exact ⟨p.registryAfter, Registry.ofFile_of_rendered hr hcontents hread,
      fun v hv ↦ p.exempts_registryAfter hv⟩

/-! ### A colon in the name of a file -/

/-- A workspace with a source file that has a colon in its name, and perhaps with its list. -/
def colonHost (list : Option Bytes) : Host where
  disk :=
    { tree :=
        let files := (Files.Tree.empty.put ["A"] (.directory {})).put ["A", "a:b.lean"]
          (.file {} (Utf8.encode "x\n"))
        match list with
        | none => files
        | some list => (files.put ["scripts"] (.directory {})).put
            ["scripts", "style-exceptions.txt"] (.file {} list)
      current := [] }
  git := none

/-- The file with a colon in its name. -/
def colonPath : Path := ⟨0, ["A", "a:b.lean"]⟩

/-- A finding on the first line of this file. -/
def colonFinding (r : Rule) : Violation where
  key := ⟨"A/a:b.lean", 1, r.tag, by decide, by decide, Nat.one_pos, r.isTag_tag⟩
  message := r.message
  message_ne_nil := r.message_ne_nil

theorem sources_colonHost : sampleUpdate.sources (colonHost none) = .ok [colonPath] := by
  refine Settings.sources_eq_ok_iff.mpr ⟨["A"], [[colonPath]], rfl, .cons ?_ .nil, rfl⟩
  simp only [Discovery.Search.files, Discovery.Search.candidates, Discovery.walkRoot,
    Discovery.walk_eq, Attempt.outcome_bind]
  cbv

theorem inFile_colonHost : (sampleUpdate.run sampleConfig Registry.empty).inFile (colonHost none)
    (Check.Checker.active sampleConfig) colonPath =
      .ok [colonFinding .header, colonFinding .documentation] := by
  have hlines : Lint.readLines (colonHost none) (Path.here / colonPath) = .ok ["x\n"] := by cbv
  unfold Lint.inFile
  rw [show Lint.readLines (colonHost none) ((sampleUpdate.run sampleConfig Registry.empty).base /
    colonPath) = _ from hlines]
  rfl

/-- The steps of an update of the workspace, which has no list yet. -/
def colonPass : Pass sampleUpdate (colonHost none) where
  config := sampleConfig
  registry := Registry.empty
  names := ["A"]
  paths := [colonPath]
  found := [[colonFinding .header, colonFinding .documentation]]
  config_eq := config_sampleSettings
  registry_eq := by cbv
  names_eq := rfl
  paths_eq := sources_colonHost
  found_eq := mapM_eq_ok_iff.mpr (.cons inFile_colonHost .nil)

theorem save_colonHost (text : Text) : save (colonHost none) sampleUpdate.list (.ok text) =
    (colonHost (some (Utf8.encode text)), .ok ()) := by
  have hmake : (colonHost none).disk.makeDirectories sampleUpdate.list.parent =
      ((colonHost none).disk.withTree
        ((colonHost none).disk.tree.put ["scripts"] (.directory {})), .ok ()) := by cbv
  have hwrite : ((colonHost none).disk.withTree
      ((colonHost none).disk.tree.put ["scripts"] (.directory {}))).write sampleUpdate.list
        (Utf8.encode text) = .ok (colonHost (some (Utf8.encode text))).disk := by
    generalize Utf8.encode text = new
    cbv
  unfold save
  rw [hmake]
  simp only [hwrite]
  rfl

theorem run_colonHost :
    ∃ err, (run (colonHost none) ⟨false, .lint, sampleUpdate⟩).ending = .exit 0 [] err := by
  have hwrite : ExceptionList.write colonPass.records =
      .ok (ExceptionList.render colonPass.records) := by
    refine ExceptionList.write_eq_ok_iff.mpr ⟨?_, rfl⟩
    show ∀ r ∈ [(colonFinding .header).toRecord, (colonFinding .documentation).toRecord], _
    decide
  have hpath : '[' ∉ sampleUpdate.list.toText := by decide
  obtain ⟨err, herr⟩ := announcement_of_no_bracket (no_bracket_savedMessage hpath
    colonPass.result.all.length colonPass.kept.length)
  have hsave : save (colonHost none) sampleUpdate.list (ExceptionList.write colonPass.records) =
      (colonHost (some (Utf8.encode (ExceptionList.render colonPass.records))), .ok ()) := by
    rw [hwrite]
    exact save_colonHost _
  exact ⟨err, (update_of_pass colonPass false rfl hsave herr).2⟩

/-- **An update ends well, and its list cannot be read** as a list that accepts what was found: the
name of the file has a colon. -/
theorem update_can_be_read_iff_colon :
    (∃ err, (run (colonHost none) ⟨false, .lint, sampleUpdate⟩).ending = .exit 0 [] err) ∧
      ∃ vs, (sampleUpdate.run sampleConfig Registry.empty).reported (colonHost none) [colonPath] =
          .ok vs ∧
        ¬ ∃ reg, Registry.ofFile (run (colonHost none) ⟨false, .lint, sampleUpdate⟩).host
            sampleUpdate.list = .ok reg ∧ ∀ v ∈ vs, reg.exempts v = true := by
  obtain ⟨err, hending⟩ := run_colonHost
  obtain ⟨config, old, paths, vs, hconfig, hold, hpaths, hvs, hiff⟩ :=
    update_can_be_read_iff (s := sampleUpdate) rfl hending
  obtain rfl : config = sampleConfig := Except.ok.inj (hconfig.symm.trans config_sampleSettings)
  obtain rfl : old = Registry.empty := Except.ok.inj (hold.symm.trans colonPass.registry_eq)
  obtain rfl : paths = [colonPath] := Except.ok.inj (hpaths.symm.trans sources_colonHost)
  obtain rfl : vs = colonPass.entries := Except.ok.inj (hvs.symm.trans colonPass.reported_eq)
  refine ⟨⟨err, hending⟩, _, hvs, fun hreg ↦ ?_⟩
  have hmem : colonFinding .header ∈ colonPass.entries := List.mem_cons_self
  have hcolon : ':' ∉ (colonFinding .header).key.path := ((hiff.mp hreg).1 _ hmem).no_colon
  exact hcolon (by decide)

end CommandLine

end StyleLinter
