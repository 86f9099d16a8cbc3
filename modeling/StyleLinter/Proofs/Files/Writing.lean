import StyleLinter.Proofs.Files.Additions

/-!
# Reading what was written

`contents?` says what the file that a path leads to holds, **whether or not the rights allow reading
it**. After a file was written the path leads to a file with the new contents (`contents?_write`),
also where the file was created, and reading it gives them unless it is denied
(`read_of_contents?`).

What a disk gains elsewhere, such as directories that are made, leaves the contents of files alone
(`contents?_of_kept`).
-/

namespace StyleLinter.Files.Disk

/-- The contents of the file that a path leads to. -/
def contents? (d : Disk) (p : Path) : Option Bytes :=
  match d.spot p with
  | .error _ => none
  | .ok s =>
    match d.tree.node? s.place with
    | some (.file _ contents) => some contents
    | _ => none

variable {d d' : Disk} {p : Path} {contents : Bytes}

theorem contents?_eq_some_iff : d.contents? p = some contents ↔
    ∃ s rights, d.spot p = .ok s ∧ d.tree.node? s.place = some (.file rights contents) := by
  unfold contents?
  constructor
  · intro h
    split at h
    · exact absurd h nofun
    · next s hs =>
      split at h
      · next rights contents' hn =>
        obtain rfl := Option.some.inj h
        exact ⟨s, rights, hs, hn⟩
      · exact absurd h nofun
  · rintro ⟨s, rights, hs, hn⟩
    simp only [hs, hn]

/-! ### What a file with contents answers -/

/-- **A file that is there is read, unless this is denied.** -/
theorem read_of_contents? (h : d.contents? p = some contents) :
    d.read p = .ok contents ∨ d.read p = .error (.refused .denied) := by
  rw [contents?_eq_some_iff] at h
  obtain ⟨s, rights, hs, hn⟩ := h
  simp only [read, hs, hn]
  cases rights.read with
  | true => exact .inl rfl
  | false => exact .inr rfl

theorem contents?_of_read (h : d.read p = .ok contents) : d.contents? p = some contents := by
  obtain ⟨s, rights, hs, hn, -⟩ := read_eq_ok_iff.mp h
  rw [contents?_eq_some_iff]
  exact ⟨s, rights, hs, hn⟩

theorem exists?_of_contents? (h : d.contents? p = some contents) : d.exists? p = .ok true := by
  rw [contents?_eq_some_iff] at h
  obtain ⟨s, rights, hs, hn⟩ := h
  simp only [exists?, kind?, hs, kindAt, hn]
  rfl

/-! ### Writing -/

/-- **A path leads to what was written to it.** -/
theorem contents?_write (h : d.write p contents = .ok d') : d'.contents? p = some contents := by
  obtain ⟨-, s, rights, hs, hn, -⟩ := spec_of_write h
  rw [contents?_eq_some_iff]
  exact ⟨s, rights, hs, hn⟩

/-! ### Disks that keep what they have -/

/-- **What a path leads to stays as it is** where a disk grows elsewhere. -/
theorem contents?_of_kept (hcur : d'.current = d.current) (h : d.tree.Kept d'.tree)
    (hc : d.contents? p = some contents) : d'.contents? p = some contents := by
  rw [contents?_eq_some_iff] at hc ⊢
  obtain ⟨s, rights, hs, hn⟩ := hc
  exact ⟨s, rights, spot_of_within hcur h.within hs, h _ _ hn⟩

end StyleLinter.Files.Disk
