import StyleLinter.ExceptionList

/-!
# The registry

The registry holds the records of an exception list for a run. No two of its records have the same
key, which is checked once, when it is made; then a finding is **exempt** if some record has its
key, whatever the messages say, and a record is **stale** if no finding has its key.
-/

namespace StyleLinter

/-- Records with distinct keys, in load order. -/
structure Registry where
  /-- The records. -/
  records : List Record
  nodup : (records.map (·.key)).Nodup

namespace Registry

/-- The registry without records. -/
def empty : Registry := ⟨[], List.nodup_nil⟩

/-- The first record whose key an earlier one has, with its number. `seen` has the earlier keys and
`n` is the number of the first record at hand. -/
def firstRepeat? (seen : List Key) (n : Nat) : List Record → Option (Nat × Key)
  | [] => none
  | r :: rs => if r.key ∈ seen then some (n, r.key) else firstRepeat? (r.key :: seen) (n + 1) rs

theorem nodup_of_firstRepeat? {seen : List Key} {n : Nat} {rs : List Record}
    (h : firstRepeat? seen n rs = none) :
    (rs.map (·.key)).Nodup ∧ ∀ r ∈ rs, r.key ∉ seen := by
  induction rs generalizing seen n with
  | nil => simp
  | cons r rs ih =>
    simp only [firstRepeat?] at h
    split at h
    · simp at h
    · rename_i hr
      obtain ⟨hnd, hseen⟩ := ih h
      refine ⟨?_, ?_⟩
      · rw [List.map_cons, List.nodup_cons]
        refine ⟨fun hm ↦ ?_, hnd⟩
        obtain ⟨r', hr', he⟩ := List.mem_map.mp hm
        exact hseen r' hr' (he ▸ List.mem_cons_self)
      · intro r' hr'
        rcases List.mem_cons.mp hr' with rfl | hr'
        · exact hr
        · exact fun hm ↦ hseen r' hr' (List.mem_cons_of_mem _ hm)

/-- The registry of the records. `source` is what messages call them. -/
def ofRecords (records : List Record) (source : Text) : Except Failure Registry :=
  match h : firstRepeat? [] 1 records with
  | none => .ok ⟨records, (nodup_of_firstRepeat? h).1⟩
  | some (n, k) => .error (.ofRecord source n (.repeatsKey k))

/-- What messages call records that come from no list. -/
def unnamed : Text := "<records>"

/-- The registry of a list. -/
def ofText (text source : Text) : Except Failure Registry :=
  match ExceptionList.parse text source with
  | .ok rs => ofRecords rs source
  | .error e => .error e

/-! ### Questions -/

/-- Is there a record for this kind on this line of this file? -/
def has (reg : Registry) (path : Text) (line : Int) (kind : Text) : Bool :=
  reg.records.any fun r ↦ r.key.path = path ∧ (r.key.line : Int) = line ∧ r.key.kind = kind

/-- Is the finding accepted? -/
def exempts (reg : Registry) (v : Violation) : Bool := reg.records.any (·.key = v.key)

/-- The records that belong to none of the findings, in load order. -/
def stale (reg : Registry) (vs : List Violation) : List Record :=
  reg.records.filter fun r ↦ !vs.any (·.key = r.key)

/-- A short description. -/
def describe (reg : Registry) : Text :=
  "ExceptionRegistry(" ++ Text.ofNat reg.records.length ++ " records)"

end Registry

end StyleLinter
