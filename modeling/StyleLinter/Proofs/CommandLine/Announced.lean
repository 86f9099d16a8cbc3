import StyleLinter.Proofs.Aggregator.Run
import StyleLinter.Proofs.Aggregator.Settled
import StyleLinter.Proofs.CommandLine.Steps

/-!
# What is announced of aggregators

The command for aggregators goes over the roots, one after the other, and prints a line for each
aggregator that it writes, or for each that differs from what it should say if it only looks
(`Writes`, `Aggregator.Differs`). A line has the root **as it was spelled**, followed by the
extension. The file has the path that this root spells, and a path is written in one way only. So
the line names the file exactly if the spelling is the usual one (`Aggregator.toText_path_eq_iff`),
and a slash at the end of a root is enough to announce a file that is not there.

That no two lines make up for each other rests on the text of a path being a part of every text that
spells it (`Path.toText_ofText_sublist`).
-/

namespace StyleLinter

open Files

/-! ### Aggregators that differ -/

namespace Aggregator

variable {s : Discovery.Search} {host host' : Host} {root : Path} {name extension : Text}

/-- Does the aggregator of a root not say what its modules are? -/
def Differs (s : Discovery.Search) (host : Host) (root : Path) : Prop :=
  ∃ modules text, (s.modules host root).outcome = .ok modules ∧
    current host (s.base / path root s.extension) = .ok text ∧ text ≠ some (render modules)

theorem check_eq_true_iff : (check s host root).outcome = .ok true ↔ IsUpToDate s host root := by
  constructor
  · intro h
    have hsync : (sync s root .check host).2 = .ok true := h
    exact (eq_true_iff_of_sync hsync).mp rfl
  · intro h
    exact (Prod.mk.inj (sync_of_isUpToDate h .check)).2

theorem check_eq_false_iff : (check s host root).outcome = .ok false ↔ Differs s host root := by
  rw [check_eq_ok_iff]
  refine exists_congr fun modules ↦ exists_congr fun text ↦ and_congr_right fun _ ↦
    and_congr_right fun _ ↦ ?_
  rw [eq_comm, decide_eq_false_iff_not]

instance : DecidablePred (Differs s host) := fun _ ↦ decidable_of_iff _ check_eq_false_iff

/-- An aggregator that is up to date does not differ. -/
theorem IsUpToDate.not_differs (h : IsUpToDate s host root) : ¬Differs s host root := fun hdiffers ↦
  absurd ((check_eq_true_iff.mpr h).symm.trans (check_eq_false_iff.mpr hdiffers)) nofun

/-- The root of an aggregator that differs is spelled by some characters. -/
theorem Differs.ne_nil (h : Differs s host (Path.ofText name)) : name ≠ [] := by
  obtain ⟨modules, -, hmodules, -⟩ := h
  obtain ⟨files, hfiles, -⟩ := Discovery.Search.modules_eq_ok_iff.mp hmodules
  rintro rfl
  exact (Discovery.Search.files_eq_ok_iff.mp hfiles).1 rfl

theorem update_of_isUpToDate (h : IsUpToDate s host root) :
    (update s host root).outcome = .ok (host, true) :=
  sync_write_eq_ok_iff.mp (sync_of_isUpToDate h .write)

/-! ### Spellings -/

/-- Is the root spelled in the usual way, and its aggregator with it? -/
structure IsPlain (name extension : Text) : Prop where
  root : Path.IsCanonical name
  aggregator : Path.IsCanonical (Discovery.aggregatorText name extension)

theorem toText_path_sublist (hname : name ≠ []) :
    (path (Path.ofText name) extension).toText.Sublist (Discovery.aggregatorText name extension) := by
  have hroot := Path.toText_ofText_sublist hname
  have hne : (Path.ofText name).toText ≠ [] := Path.toText_ne_nil (Path.isNormal_ofText name)
  exact (Path.toText_ofText_sublist (List.append_ne_nil_of_left_ne_nil hne extension)).trans
    (hroot.append (.refl extension))

/-- **The path of an aggregator is the spelling of its root with the extension** exactly if this is
the usual spelling. -/
theorem toText_path_eq_iff (hname : name ≠ []) :
    (path (Path.ofText name) extension).toText = Discovery.aggregatorText name extension ↔
      IsPlain name extension := by
  have hne : (Path.ofText name).toText ≠ [] := Path.toText_ne_nil (Path.isNormal_ofText name)
  constructor
  · intro he
    refine ⟨?_, ?_⟩
    · have hroot := Path.toText_ofText_sublist hname
      have hpath := (Path.toText_ofText_sublist
        (List.append_ne_nil_of_left_ne_nil hne extension)).length_le
      have hlength := congrArg List.length he
      rw [path, Discovery.aggregatorText, Discovery.aggregatorText] at hlength
      rw [List.length_append] at hpath hlength
      exact hroot.eq_of_length (Nat.le_antisymm hroot.length_le (by omega))
    · rw [← he]
      exact (Path.isNormal_ofText _).isCanonical
  · rintro ⟨hroot, haggregator⟩
    rw [path, hroot]
    exact haggregator

end Aggregator

namespace CommandLine

open Aggregator (Differs IsPlain IsUpToDate IsAt Turns)

variable {s : Settings} {host host' : Host} {names written : List Text}

/-! ### Lines -/

/-- One line for each of the texts, each with the remark. -/
def remarks (remark : Text) (texts : List Text) : Text := texts.flatMap fun t ↦ t ++ remark ++ ['\n']

theorem remarks_map_cons (remark : Text) (f : Text → Text) (t : Text) (ts : List Text) :
    remarks remark ((t :: ts).map f) = f t ++ (remark ++ '\n' :: remarks remark (ts.map f)) := by
  simp [remarks]

theorem remarks_map_sublist (remark : Text) {f g : Text → Text} {ts : List Text}
    (h : ∀ t ∈ ts, (f t).Sublist (g t)) :
    (remarks remark (ts.map f)).Sublist (remarks remark (ts.map g)) := by
  induction ts with
  | nil => exact .refl _
  | cons t ts ih =>
    have hrest := ih fun u hu ↦ h u (List.mem_cons_of_mem _ hu)
    rw [remarks_map_cons, remarks_map_cons]
    exact (h t List.mem_cons_self).append ((List.Sublist.refl remark).append (hrest.cons_cons '\n'))

/-- **Lines are equal only line by line** if none is longer than the one in its place. -/
theorem remarks_map_eq_iff (remark : Text) {f g : Text → Text} {ts : List Text}
    (h : ∀ t ∈ ts, (f t).Sublist (g t)) :
    remarks remark (ts.map f) = remarks remark (ts.map g) ↔ ∀ t ∈ ts, f t = g t := by
  refine ⟨fun he ↦ ?_, fun he ↦ by rw [List.map_congr_left he]⟩
  induction ts with
  | nil => exact nofun
  | cons t ts ih =>
    have hfirst := h t List.mem_cons_self
    have htail : ∀ u ∈ ts, (f u).Sublist (g u) := fun u hu ↦ h u (List.mem_cons_of_mem _ hu)
    rw [remarks_map_cons, remarks_map_cons] at he
    have ht : f t = g t := by
      -- neither the first line nor the rest is longer, so neither is shorter
      have hsum := congrArg List.length he
      have hrest := (remarks_map_sublist remark htail).length_le
      simp only [List.length_append, List.length_cons] at hsum
      exact hfirst.eq_of_length (Nat.le_antisymm hfirst.length_le (by omega))
    rw [ht] at he
    have hlines := (List.cons.inj (List.append_cancel_left (List.append_cancel_left he))).2
    exact List.forall_mem_cons.mpr ⟨ht, ih htail hlines⟩

/-! ### Aggregators that are written -/

/-- **The aggregators that are written** when the roots have their turns, by the names of the
roots. -/
inductive Writes (s : Discovery.Search) : Host → List Text → List Text → Host → Prop
  | nil (host : Host) : Writes s host [] [] host
  /-- The aggregator of the first root is up to date. -/
  | kept {host host' : Host} {name : Text} {names written : List Text}
      (h : IsUpToDate s host (Path.ofText name)) (rest : Writes s host names written host') :
      Writes s host (name :: names) written host'
  /-- The aggregator of the first root differs from what it should say, and is written. -/
  | written {host host' : Host} {disk : Disk} {name : Text} {names written modules : List Text}
      {text : Option Text} (hmodules : (s.modules host (Path.ofText name)).outcome = .ok modules)
      (htext : Aggregator.current host
        (s.base / Aggregator.path (Path.ofText name) s.extension) = .ok text)
      (hdiffers : text ≠ some (Aggregator.render modules))
      (hwrite : host.disk.write (s.base / Aggregator.path (Path.ofText name) s.extension)
        (Utf8.encode (Aggregator.render modules)) = .ok disk)
      (rest : Writes s (host.withDisk disk) names written host') :
      Writes s host (name :: names) (name :: written) host'

namespace Writes

variable {search : Discovery.Search}

/-- The turn of the first root decides whether it is named. -/
theorem cons {name : Text} {mid : Host} {b : Bool}
    (turn : (Aggregator.update search host (Path.ofText name)).outcome = .ok (mid, b))
    (rest : Writes search mid names written host') :
    Writes search host (name :: names) (if b then written else name :: written) host' := by
  obtain ⟨modules, text, hmodules, htext, ⟨rfl, rfl, rfl⟩ | ⟨hdiffers, rfl, disk, hwrite, rfl⟩⟩ :=
    Aggregator.update_eq_ok_iff.mp turn
  · exact .kept ⟨modules, hmodules, htext⟩ rest
  · exact .written hmodules htext hdiffers hwrite rest

theorem sublist (h : Writes search host names written host') : written.Sublist names := by
  induction h with
  | nil => exact .refl _
  | kept _ _ ih => exact ih.cons _
  | written _ _ _ _ _ ih => exact ih.cons_cons _

theorem turns (h : Writes search host names written host') :
    Turns search host (names.map Path.ofText) host' := by
  induction h with
  | nil host => exact .nil host
  | kept h _ ih => exact .cons (Aggregator.update_of_isUpToDate h) ih
  | written hmodules htext hdiffers hwrite _ ih =>
    exact .cons (Aggregator.update_of_stale hmodules htext hdiffers hwrite) ih

/-- **What has changed in the end is an aggregator that was written.** -/
theorem changed (h : Writes search host names written host') (place : Place) :
    host'.disk.tree.node? place = host.disk.tree.node? place ∨
      ∃ name ∈ written, IsAt search host' (Path.ofText name) place := by
  induction h with
  | nil => exact .inl rfl
  | kept _ _ ih => exact ih
  | @written _ _ _ name _ _ _ _ hmodules htext hdiffers hwrite rest ih =>
    rcases ih with hsame | ⟨name', hmem, hplace⟩
    · have turn := Aggregator.update_of_stale hmodules htext hdiffers hwrite
      obtain ⟨-, -, spot, hs, -, hframe⟩ := Aggregator.spec_of_update turn
      by_cases hplace : place = spot.place
      · exact .inr ⟨name, List.mem_cons_self, spot, rest.turns.grown.1.spot hs, hplace.symm⟩
      · exact .inl (hsame.trans (hframe place hplace))
    · exact .inr ⟨name', List.mem_cons_of_mem name hmem, hplace⟩

/-- In the end there is a file at the path of each aggregator that was written. -/
theorem kind?_path (h : Writes search host names written host') {name : Text} (hname : name ∈ written) :
    host'.disk.kind? (search.base / Aggregator.path (Path.ofText name) search.extension) =
      .ok (some .file) := by
  obtain ⟨spot, hs, hkind⟩ :=
    h.turns.exists_aggregator (List.mem_map_of_mem (h.sublist.subset hname))
  rw [Disk.kind?_of_spot hs, hkind]

theorem ne_nil (h : Writes search host names written host') {name : Text} (hname : name ∈ written) :
    name ≠ [] := by
  rintro rfl
  exact h.turns.ne_here (List.mem_map_of_mem (h.sublist.subset hname)) rfl

end Writes

/-- **Roots that have their turns have some of their aggregators written.** -/
theorem turns_iff_exists_writes {search : Discovery.Search} :
    Turns search host (names.map Path.ofText) host' ↔
      ∃ written, Writes search host names written host' := by
  refine ⟨fun h ↦ ?_, fun ⟨_, h⟩ ↦ h.turns⟩
  induction names generalizing host with
  | nil =>
    cases h
    exact ⟨[], .nil _⟩
  | cons name names ih =>
    rcases h with _ | ⟨turn, rest⟩
    obtain ⟨written, hwritten⟩ := ih rest
    exact ⟨_, .cons turn hwritten⟩

/-- **The command names the roots whose aggregators it writes.** -/
theorem writes_iff_aggregateAll : Writes s.search host names written host' ↔
    (aggregateAll s host names).1 = host' ∧
      (aggregateAll s host names).2.outcome = .ok written := by
  constructor
  · intro h
    generalize hsearch : s.search = search at h
    induction h with
    | nil => exact ⟨rfl, rfl⟩
    | kept h _ ih =>
      obtain ⟨hhost, hwritten⟩ := ih
      subst hsearch
      rw [aggregateAll, Aggregator.update_of_isUpToDate h]
      exact ⟨hhost, map_eq_ok_iff.mpr ⟨_, hwritten, rfl⟩⟩
    | written hmodules htext hdiffers hwrite _ ih =>
      obtain ⟨hhost, hwritten⟩ := ih
      subst hsearch
      rw [aggregateAll, Aggregator.update_of_stale hmodules htext hdiffers hwrite]
      exact ⟨hhost, map_eq_ok_iff.mpr ⟨_, hwritten, rfl⟩⟩
  · rintro ⟨hhost, hwritten⟩
    induction names generalizing host written with
    | nil =>
      obtain rfl := Except.ok.inj hwritten
      exact hhost ▸ .nil host
    | cons name names ih =>
      unfold aggregateAll at hhost hwritten
      dsimp only at hhost hwritten
      cases turn : (Aggregator.update s.search host (Path.ofText name)).outcome with
      | error f =>
        rw [turn] at hwritten
        exact absurd hwritten nofun
      | ok result =>
        rw [turn] at hhost hwritten
        obtain ⟨rest, hrest, rfl⟩ := map_eq_ok_iff.mp hwritten
        exact .cons turn (ih hhost hrest)

/-! ### Aggregators that are looked at -/

/-- The first root is looked at, and then the others. -/
theorem outcome_staleRoots_cons (name : Text) : (staleRoots s host (name :: names)).outcome =
    (Aggregator.check s.search host (Path.ofText name)).outcome >>= fun b ↦
      (staleRoots s host names).outcome.map fun stale ↦ if b then stale else name :: stale := by
  unfold staleRoots
  simp only [Attempt.outcome_bind, Attempt.outcome_mapM, List.mapM_cons]
  cases (Aggregator.check s.search host (Path.ofText name)).outcome with
  | error f => rfl
  | ok b =>
    generalize List.mapM (m := Except Failure) _ names = found
    cases found with
    | error f => rfl
    | ok ts => cases b <;> rfl

/-- **The command names the roots whose aggregators differ** if it can tell of all of them. -/
theorem staleRoots_eq_ok_iff {stale : List Text} : (staleRoots s host names).outcome = .ok stale ↔
    (∀ name ∈ names, ∃ b, (Aggregator.check s.search host (Path.ofText name)).outcome = .ok b) ∧
      stale = names.filter (Differs s.search host <| Path.ofText ·) := by
  induction names generalizing stale with
  | nil => exact ⟨fun h ↦ ⟨nofun, (Except.ok.inj h).symm⟩, fun h ↦ h.2 ▸ rfl⟩
  | cons name names ih =>
    rw [outcome_staleRoots_cons, bind_eq_ok_iff, List.forall_mem_cons, and_assoc, ← exists_and_right]
    refine exists_congr fun b ↦ and_congr_right fun hb ↦ ?_
    rw [map_eq_ok_iff]
    simp only [ih]
    cases b with
    | true =>
      rw [List.filter_cons_of_neg (by
        simpa using (Aggregator.check_eq_true_iff.mp hb).not_differs)]
      constructor
      · rintro ⟨_, ⟨hall, rfl⟩, rfl⟩
        exact ⟨hall, rfl⟩
      · rintro ⟨hall, rfl⟩
        exact ⟨_, ⟨hall, rfl⟩, rfl⟩
    | false =>
      rw [List.filter_cons_of_pos (by simpa using Aggregator.check_eq_false_iff.mp hb)]
      constructor
      · rintro ⟨_, ⟨hall, rfl⟩, rfl⟩
        exact ⟨hall, rfl⟩
      · rintro ⟨hall, rfl⟩
        exact ⟨_, ⟨hall, rfl⟩, rfl⟩

/-! ### Endings -/

theorem aggregate_of_write (hcheck : s.check = false) (hnames : (s.allRoots host).outcome = .ok names) :
    (aggregate s host).1 = (aggregateAll s host names).1 ∧
      (aggregate s host).2.outcome =
        (aggregateAll s host names).2.outcome.map (aggregateEnding s) := by
  unfold aggregate
  simp only [hnames, hcheck]
  exact ⟨rfl, rfl⟩

theorem aggregate_of_check (hcheck : s.check = true) (hnames : (s.allRoots host).outcome = .ok names) :
    (aggregate s host).1 = host ∧
      (aggregate s host).2.outcome = (staleRoots s host names).outcome.map (aggregateEnding s) := by
  unfold aggregate
  simp only [hnames, hcheck]
  exact ⟨rfl, rfl⟩

/-- What goes after the spelling of an aggregator. -/
def remark (s : Settings) : Text := if s.check then " is out of date" else " updated"

theorem aggregateEnding_eq (s : Settings) (stale : List Text) : aggregateEnding s stale =
    .exit (if s.check && !stale.isEmpty then 1 else 0)
      (remarks (remark s) (stale.map (Discovery.aggregatorText · s.extension))) [] := by
  unfold aggregateEnding printed remarks remark
  dsimp only
  rw [List.flatMap_map, List.flatMap_map]

/-- The roots are known when the command has not failed. -/
theorem exists_names_of_aggregate {e : Ending} (h : (aggregate s host).2.outcome = .ok e) :
    ∃ names, (s.allRoots host).outcome = .ok names := by
  unfold aggregate at h
  dsimp only at h
  split at h
  · exact absurd h nofun
  · next names hnames => exact ⟨names, hnames⟩

/-- The paths of the aggregators of the roots. -/
def aggregatorPaths (extension : Text) (names : List Text) : List Text :=
  names.map fun name ↦ (Aggregator.path (Path.ofText name) extension).toText

/-- **The lines name the paths of aggregators** exactly if their roots are spelled in the usual
way. -/
theorem remarks_aggregatorPaths_iff {extension remark : Text} (hnames : ∀ name ∈ names, name ≠ []) :
    remarks remark (names.map (Discovery.aggregatorText · extension)) =
        remarks remark (aggregatorPaths extension names) ↔
      ∀ name ∈ names, IsPlain name extension := by
  rw [eq_comm, aggregatorPaths,
    remarks_map_eq_iff remark fun name hname ↦ Aggregator.toText_path_sublist (hnames name hname)]
  exact forall₂_congr fun name hname ↦ Aggregator.toText_path_eq_iff (hnames name hname)

/-- What the status says of the aggregators that are out of date. -/
theorem status_check (stale : List Text) : (if true && !stale.isEmpty then 1 else 0) ≤ 1 ∧
    ((if true && !stale.isEmpty then 1 else 0) = 1 ↔ stale ≠ []) := by
  cases stale <;> simp

/-- **The command for aggregators tells what it did, and names it as it was told to.** When it ends
with another status than 2, it has been able to go over all roots.

If it writes, it has written the aggregators of some of them, one after the other. Whatever has
changed is one of these, and they are there. It prints one line for each, in the same order. If it
only looks, it leaves everything as it is, and prints one line for each of those that differ from
what they should say. The status is 1 exactly if there is one.

A line has the spelling of the root, and the extension. So the lines have the paths of the
aggregators exactly if all of these roots are spelled in the usual way. -/
theorem announced_as_spelled {verbose : Bool} {status : Nat} {out err : Text}
    (hhost : (run host ⟨verbose, .aggregate, s⟩).host = host')
    (h : (run host ⟨verbose, .aggregate, s⟩).ending = .exit status out err) (hstatus : status ≠ 2) :
    ∃ names, (s.allRoots host).outcome = .ok names ∧
      (s.check = false → status = 0 ∧ ∃ written, Writes s.search host names written host' ∧
        (∀ place, host'.disk.tree.node? place = host.disk.tree.node? place ∨
          ∃ name ∈ written, IsAt s.search host' (Path.ofText name) place) ∧
        (∀ name ∈ written, host'.disk.kind?
          (s.workspace / Aggregator.path (Path.ofText name) s.extension) = .ok (some .file)) ∧
        out = remarks " updated" (written.map (Discovery.aggregatorText · s.extension)) ∧
        (out = remarks " updated" (aggregatorPaths s.extension written) ↔
          ∀ name ∈ written, IsPlain name s.extension)) ∧
      (s.check = true → host' = host ∧ status ≤ 1 ∧
        ∃ stale, stale = names.filter (Differs s.search host <| Path.ofText ·) ∧
          (status = 1 ↔ stale ≠ []) ∧
          out = remarks " is out of date" (stale.map (Discovery.aggregatorText · s.extension)) ∧
          (out = remarks " is out of date" (aggregatorPaths s.extension stale) ↔
            ∀ name ∈ stale, IsPlain name s.extension)) := by
  have hended : (aggregate s host).2.outcome = .ok (.exit status out err) := outcome_of_ended h hstatus
  obtain ⟨names, hnames⟩ := exists_names_of_aggregate hended
  refine ⟨names, hnames, fun hcheck ↦ ?_, fun hcheck ↦ ?_⟩
  · obtain ⟨hfirst, hending⟩ := aggregate_of_write hcheck hnames
    obtain ⟨written, hwritten, he⟩ := map_eq_ok_iff.mp (hending.symm.trans hended)
    have hwrites : Writes s.search host names written host' :=
      writes_iff_aggregateAll.mpr ⟨hfirst.symm.trans hhost, hwritten⟩
    rw [aggregateEnding_eq, remark, hcheck] at he
    obtain ⟨rfl, rfl, rfl⟩ := Ending.exit.inj he
    exact ⟨rfl, written, hwrites, hwrites.changed, fun _ hname ↦ hwrites.kind?_path hname, rfl,
      remarks_aggregatorPaths_iff fun _ hname ↦ hwrites.ne_nil hname⟩
  · obtain ⟨hfirst, hending⟩ := aggregate_of_check hcheck hnames
    obtain ⟨stale, hstale, he⟩ := map_eq_ok_iff.mp (hending.symm.trans hended)
    obtain ⟨-, hfilter⟩ := staleRoots_eq_ok_iff.mp hstale
    have hne : ∀ name ∈ stale, name ≠ [] := fun name hname ↦ by
      rw [hfilter, List.mem_filter] at hname
      exact (of_decide_eq_true hname.2).ne_nil
    rw [aggregateEnding_eq, remark, hcheck] at he
    obtain ⟨rfl, rfl, rfl⟩ := Ending.exit.inj he
    obtain ⟨hle, hone⟩ := status_check stale
    exact ⟨hhost.symm.trans hfirst, hle, stale, hfilter, hone, rfl, remarks_aggregatorPaths_iff hne⟩

/-! ### A slash at the end -/

/-- The root of a stale aggregator, with a slash at its end. -/
def slashedSettings : Settings where
  roots := ["A/"]

theorem writes_slashed : Writes slashedSettings.search (Aggregator.staleHost "import A.Y\n") ["A/"]
    ["A/"] (Aggregator.staleHost "import A.X\n") := by
  have hroot : Path.ofText "A/" = Aggregator.staleRoot := by decide
  have hsearch : slashedSettings.search = Aggregator.staleSearch := rfl
  have turn := Aggregator.sync_write_eq_ok_iff.mp Aggregator.sync_staleHost
  rw [← hroot, ← hsearch] at turn
  exact .cons turn (.nil _)

/-- **A slash at the end of a root**: the aggregator that is announced is not the one that is
written. -/
theorem announced_as_spelled_slashed :
    (run (Aggregator.staleHost "import A.Y\n") ⟨false, .aggregate, slashedSettings⟩).host =
      Aggregator.staleHost "import A.X\n" ∧
    (run (Aggregator.staleHost "import A.Y\n") ⟨false, .aggregate, slashedSettings⟩).ending =
      .exit 0 "A/.lean updated\n" [] ∧
    aggregatorPaths ".lean" ["A/"] = ["A.lean"] ∧
    ("A/.lean updated\n" : Text) ≠ remarks " updated" (aggregatorPaths ".lean" ["A/"]) := by
  obtain ⟨hfirst, hwritten⟩ := writes_iff_aggregateAll.mp writes_slashed
  have hnames : (slashedSettings.allRoots (Aggregator.staleHost "import A.Y\n")).outcome = .ok ["A/"] :=
    rfl
  obtain ⟨hchanged, hending⟩ := aggregate_of_write rfl hnames
  have hhost : (run (Aggregator.staleHost "import A.Y\n") ⟨false, .aggregate, slashedSettings⟩).host =
      Aggregator.staleHost "import A.X\n" := hchanged.trans hfirst
  have hend : (run (Aggregator.staleHost "import A.Y\n") ⟨false, .aggregate, slashedSettings⟩).ending =
      .exit 0 "A/.lean updated\n" [] := by
    refine ended_of_outcome (hending.trans (map_eq_ok_iff.mpr ⟨_, hwritten, ?_⟩))
    rw [aggregateEnding_eq]
    rfl
  obtain ⟨names, hnames', hwrite, -⟩ := announced_as_spelled hhost hend (by decide)
  obtain ⟨-, written, hwrites, -, -, -, hplain⟩ := hwrite rfl
  obtain rfl := Except.ok.inj (hnames.symm.trans hnames')
  obtain rfl : [("A/" : Text)] = written :=
    Except.ok.inj (hwritten.symm.trans (writes_iff_aggregateAll.mp hwrites).2)
  refine ⟨hhost, hend, by decide, fun he ↦ ?_⟩
  exact absurd (hplain.mp he _ (List.mem_singleton_self _)).root (by decide)

end CommandLine

end StyleLinter
