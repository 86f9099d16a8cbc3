import StyleLinter.Proofs.ExceptionList.Listing
import StyleLinter.Proofs.Files.Writing
import StyleLinter.Proofs.Utf8
import StyleLinter.Registry.Load

/-!
# Loading what was written

A registry that was loaded has the records of its list (`parse_of_ofText`), all of them listable
(`isListable_of_ofFileIfThere`). The other way round, where a path leads to a file with a list that
was written, the registry that is loaded there has the records of that list (`ofFile_of_rendered`),
and it is found there whether or not it is required. **The only thing that can come between is that
reading the file is denied.**
-/

namespace StyleLinter.Registry

/-! ### Records and lists -/

theorem firstRepeat?_eq_none {seen : List Key} {n : Nat} {rs : List Record}
    (hnd : (rs.map (·.key)).Nodup) (hseen : ∀ r ∈ rs, r.key ∉ seen) :
    firstRepeat? seen n rs = none := by
  induction rs generalizing seen n with
  | nil => rfl
  | cons r rs ih =>
    rw [List.map_cons, List.nodup_cons] at hnd
    rw [firstRepeat?, if_neg (hseen r List.mem_cons_self)]
    refine ih hnd.2 fun s hs hmem ↦ ?_
    rcases List.mem_cons.mp hmem with he | hmem
    · exact hnd.1 (List.mem_map.mpr ⟨s, hs, he⟩)
    · exact hseen s (List.mem_cons_of_mem _ hs) hmem

/-- Records with distinct keys make a registry. -/
theorem ofRecords_of_nodup {rs : List Record} (h : (rs.map (·.key)).Nodup) (source : Text) :
    ofRecords rs source = .ok ⟨rs, h⟩ := by
  unfold ofRecords
  split
  · rfl
  · next hr => exact absurd ((firstRepeat?_eq_none h fun _ _ ↦ List.not_mem_nil).symm.trans hr) nofun

theorem records_of_ofRecords {rs : List Record} {source : Text} {reg : Registry}
    (h : ofRecords rs source = .ok reg) : reg.records = rs := by
  unfold ofRecords at h
  split at h
  · obtain rfl := Except.ok.inj h
    rfl
  · exact absurd h nofun

/-- **A registry has the records of its list.** -/
theorem parse_of_ofText {text source : Text} {reg : Registry} (h : ofText text source = .ok reg) :
    ExceptionList.parse text source = .ok reg.records := by
  unfold ofText at h
  split at h
  · next rs hrs =>
    rw [records_of_ofRecords h]
    exact hrs
  · exact absurd h nofun

theorem ofText_of_parse {text source : Text} {rs : List Record}
    (h : ExceptionList.parse text source = .ok rs) (hnd : (rs.map (·.key)).Nodup) :
    ofText text source = .ok ⟨rs, hnd⟩ := by
  rw [ofText, h]
  exact ofRecords_of_nodup hnd source

/-! ### Files -/

variable {host : Host} {path : Path}

theorem readText_eq_ok_iff {text : Text} : host.readText path = .ok text ↔
    ∃ bytes t, host.disk.read path = .ok bytes ∧ Utf8.decode bytes = .ok t ∧
      Text.unifyNewlines t = text := by
  unfold Host.readText
  constructor
  · intro h
    split at h
    · exact absurd h nofun
    · next bytes hbytes =>
      split at h
      · exact absurd h nofun
      · next t ht => exact ⟨bytes, t, hbytes, ht, Except.ok.inj h⟩
  · rintro ⟨bytes, t, hbytes, ht, rfl⟩
    simp only [hbytes, ht]

theorem ofFile_of_readText {text : Text} (h : host.readText path = .ok text) :
    ofFile host path = ofText text path := by
  rw [ofFile, readList, h]

/-- **A list that was written is loaded**, unless reading it is denied. -/
theorem ofFile_of_rendered {rs : List Record} (hr : ∀ r ∈ rs, r.IsListable)
    (hc : host.disk.contents? path = some (Utf8.encode (ExceptionList.render rs)))
    (hread : host.disk.read path ≠ .error (.refused .denied)) :
    ofFile host path = .ok ⟨Record.sorted (ExceptionList.lastOfEach rs),
      Record.nodup_keys_sorted (ExceptionList.nodup_keys_lastOfEach rs)⟩ := by
  have hread : host.disk.read path = .ok _ := (Files.Disk.read_of_contents? hc).resolve_right hread
  have htext : host.readText path = .ok (ExceptionList.render rs) := readText_eq_ok_iff.mpr
    ⟨_, _, hread, Utf8.decode_encode _, ExceptionList.unifyNewlines_render hr⟩
  exact (ofFile_of_readText htext).trans (ofText_of_parse (ExceptionList.parse_render hr _) _)

theorem readText_of_ofFile {reg : Registry} (h : ofFile host path = .ok reg) :
    ∃ text, host.readText path = .ok text ∧ ofText text path = .ok reg := by
  unfold ofFile at h
  split at h
  · exact absurd h nofun
  · next text ht =>
    refine ⟨text, ?_, h⟩
    unfold readList at ht
    split at ht
    · exact absurd ht nofun
    · exact absurd ht nofun
    · exact absurd ht nofun
    · exact ht

theorem not_denied_of_ofFile {reg : Registry} (h : ofFile host path = .ok reg) :
    host.disk.read path ≠ .error (.refused .denied) := by
  obtain ⟨text, ht, -⟩ := readText_of_ofFile h
  intro hd
  rw [Host.readText, hd] at ht
  exact absurd ht nofun

/-! ### Lists that need not be there -/

theorem ofFileIfThere_of_contents? {contents : Bytes} (hc : host.disk.contents? path = some contents)
    (required : Bool) : (ofFileIfThere host path required).outcome = ofFile host path := by
  cases required with
  | true => rfl
  | false =>
    rw [ofFileIfThere, Files.Disk.exists?_of_contents? hc]
    rfl

/-- A registry is empty or comes from the file. -/
theorem eq_empty_or_ofFile {required : Bool} {reg : Registry}
    (h : (ofFileIfThere host path required).outcome = .ok reg) :
    reg = empty ∨ ofFile host path = .ok reg := by
  unfold ofFileIfThere at h
  split at h
  · exact .inr h
  · split at h
    · exact absurd h nofun
    · exact .inr h
    · exact .inl (Except.ok.inj h).symm

/-- **The records of a registry that was loaded are listable.** -/
theorem isListable_of_ofFile {reg : Registry} (h : ofFile host path = .ok reg) :
    ∀ r ∈ reg.records, r.IsListable := by
  obtain ⟨text, -, ht⟩ := readText_of_ofFile h
  exact ExceptionList.isListable_of_parse (parse_of_ofText ht)

theorem isListable_of_ofFileIfThere {required : Bool} {reg : Registry}
    (h : (ofFileIfThere host path required).outcome = .ok reg) : ∀ r ∈ reg.records, r.IsListable := by
  rcases eq_empty_or_ofFile h with rfl | h
  · exact fun r hr ↦ absurd hr List.not_mem_nil
  · exact isListable_of_ofFile h

end StyleLinter.Registry
