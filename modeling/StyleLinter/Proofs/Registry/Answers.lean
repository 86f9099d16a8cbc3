import StyleLinter.Proofs.ExceptionList.RoundTrip
import StyleLinter.Proofs.Failure
import StyleLinter.Proofs.Registry.Loading

/-!
# What a registry answers

A registry answers by keys, and it answers what its records say: a finding is exempt if some record
has its key (`exempts_iff`), a record is stale if no finding has its key (`mem_stale_iff`), and a
question about a path, a line and a kind is a question about a record with just these (`has_iff`).

There is a registry for any records whose keys are distinct. Otherwise making it fails at the first
record whose key came before (`split_of_ofRecords`). Records that were read from a list are
never refused: **the reader has looked for repeated keys already** (`ofText_eq_error_iff`).
-/

namespace StyleLinter.Registry

variable {reg : Registry} {rs : List Record} {text source : Text}

/-! ### Questions -/

/-- A question is answered by a record with all three parts. -/
theorem has_iff {path kind : Text} {line : Int} : reg.has path line kind = true ↔
    ∃ r ∈ reg.records, r.key.path = path ∧ (r.key.line : Int) = line ∧ r.key.kind = kind := by
  rw [has, List.any_eq_true]
  exact exists_congr fun r ↦ and_congr_right fun _ ↦ decide_eq_true_iff

/-- A finding is exempt if some record has its key. -/
theorem exempts_iff {v : Violation} :
    reg.exempts v = true ↔ ∃ r ∈ reg.records, r.key = v.key := by
  rw [exempts, List.any_eq_true]
  exact exists_congr fun r ↦ and_congr_right fun _ ↦ decide_eq_true_iff

/-- **A finding is exempt by the parts of its key**, and its message does not matter. -/
theorem exempts_eq_has (reg : Registry) (v : Violation) :
    reg.exempts v = reg.has v.key.path v.key.line v.key.kind := by
  rw [Bool.eq_iff_iff, exempts_iff, has_iff]
  simp only [Key.eq_iff, Int.ofNat_inj]

/-- A record is stale if no finding has its key. -/
theorem stale_eq_filter (reg : Registry) (vs : List Violation) :
    reg.stale vs = reg.records.filter fun r ↦ ∀ v ∈ vs, v.key ≠ r.key := by
  refine List.filter_congr fun r _ ↦ ?_
  rw [Bool.eq_iff_iff, Bool.not_eq_true', List.any_eq_false]
  simp

theorem mem_stale_iff {vs : List Violation} {r : Record} :
    r ∈ reg.stale vs ↔ r ∈ reg.records ∧ ∀ v ∈ vs, v.key ≠ r.key := by
  rw [stale_eq_filter, List.mem_filter, decide_eq_true_iff]

/-! ### Repeated keys -/

/-- **The record that is found is the first whose key came before.** The keys before it are
distinct, so none of the earlier records is one. -/
theorem split_of_firstRepeat? {seen : List Key} {n m : Nat} {k : Key}
    (h : firstRepeat? seen n rs = some (m, k)) : ∃ before r after, rs = before ++ r :: after ∧
      m = n + before.length ∧ k = r.key ∧ (r.key ∈ seen ∨ ∃ q ∈ before, q.key = r.key) ∧
      (before.map (·.key)).Nodup ∧ ∀ q ∈ before, q.key ∉ seen := by
  induction rs generalizing seen n with
  | nil => cases h
  | cons q rs ih =>
    rw [firstRepeat?] at h
    split at h
    · next hq =>
      obtain ⟨rfl, rfl⟩ := Prod.mk.inj (Option.some.inj h)
      exact ⟨[], q, rs, rfl, rfl, rfl, .inl hq, List.nodup_nil,
        fun q hq ↦ absurd hq List.not_mem_nil⟩
    · next hq =>
      obtain ⟨before, r, after, rfl, rfl, rfl, hr, hnd, hseen⟩ := ih h
      refine ⟨q :: before, r, after, rfl, by rw [List.length_cons]; omega, rfl, ?_, ?_, ?_⟩
      · rcases hr with hr | ⟨s, hs, he⟩
        · rcases List.mem_cons.mp hr with he | hr
          · exact .inr ⟨q, List.mem_cons_self, he.symm⟩
          · exact .inl hr
        · exact .inr ⟨s, List.mem_cons_of_mem _ hs, he⟩
      · rw [List.map_cons, List.nodup_cons]
        refine ⟨fun hmem ↦ ?_, hnd⟩
        obtain ⟨s, hs, he⟩ := List.mem_map.mp hmem
        exact hseen s hs (he ▸ List.mem_cons_self)
      · intro s hs
        rcases List.mem_cons.mp hs with rfl | hs
        · exact hq
        · exact fun hmem ↦ hseen s hs (List.mem_cons_of_mem _ hmem)

theorem exists_ofRecords_iff : (∃ reg, ofRecords rs source = .ok reg) ↔ (rs.map (·.key)).Nodup := by
  constructor
  · rintro ⟨reg, h⟩
    exact records_of_ofRecords h ▸ reg.nodup
  · exact fun h ↦ ⟨_, ofRecords_of_nodup h source⟩

/-- **Making a registry fails at the first record whose key came before**, and the failure has its
number. -/
theorem split_of_ofRecords {f : Failure} (hsource : source ≠ []) (h : ofRecords rs source = .error f) :
    ∃ before r after, rs = before ++ r :: after ∧ (∃ q ∈ before, q.key = r.key) ∧
      (before.map (·.key)).Nodup ∧ f = .record source (before.length + 1) (.repeatsKey r.key) := by
  unfold ofRecords at h
  split at h
  · exact absurd h nofun
  · next m k hfirst =>
    obtain rfl := Except.error.inj h
    obtain ⟨before, r, after, rfl, rfl, rfl, hr, hnd, -⟩ := split_of_firstRepeat? hfirst
    refine ⟨before, r, after, rfl, hr.resolve_left List.not_mem_nil, hnd, ?_⟩
    rw [Nat.add_comm 1]
    exact Failure.ofRecord_eq hsource (Nat.succ_pos _) nofun

/-- **What was read is never refused.** -/
theorem ofText_eq_error_iff {f : Failure} :
    ofText text source = .error f ↔ ExceptionList.parse text source = .error f := by
  cases h : ExceptionList.parse text source with
  | error e => simp [ofText, h]
  | ok rs => simp [ofText_of_parse h (ExceptionList.nodup_keys_of_parse h)]

/-! ### All of it -/

/-- Three records, the third with the key of the first. -/
def repetitive : List Record :=
  [ExceptionList.sampleRecord 11 "old", ExceptionList.sampleRecord 1 [],
    ExceptionList.sampleRecord 11 "new"]

end StyleLinter.Registry
