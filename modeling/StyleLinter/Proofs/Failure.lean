import StyleLinter.Failure

/-!
# Families of failures

The linter's own failures come in families, by what it was doing: loading a configuration, finding
and reading files, reading an exception list. What it does not report as one of these is passed on
as it comes.

A failure on a line of an exception list must have a source, a line and a reason. **Every fault but
one that a caller states is worded**, so a fault that is found in a list gives the failure that it
should (`ofRecord_eq`).
-/

namespace StyleLinter

namespace Failure

/-- Is it a failure to load a configuration? -/
def isLoad : Failure → Bool
  | load .. => true
  | _ => false

/-- Is it about a line of an exception list? -/
def isRecord : Failure → Bool
  | record .. => true
  | _ => false

/-- Is it a failure to find or read files? That a listing command does not answer is one. -/
def isDiscovery : Failure → Bool
  | discovery .. | listing .. => true
  | _ => false

end Failure

/-! ### Wording -/

/-- Every refusal of a value is worded. -/
theorem Invalid.message_ne_nil (i : Invalid) : i.message ≠ [] := by
  have hleft : ∀ {piece rest : Text}, piece ≠ [] → piece ++ rest ≠ [] := fun h ↦
    List.append_ne_nil_of_left_ne_nil h _
  have hright : ∀ {rest piece : Text}, piece ≠ [] → rest ++ piece ≠ [] := fun h ↦
    List.append_ne_nil_of_right_ne_nil _ h
  -- every wording has a fixed piece at its beginning or at its end
  cases i <;> first
    | decide
    | exact hleft (by decide)
    | exact hright (by decide)
    | exact hleft (hleft (hleft (by decide)))

/-- Every fault of a line that is not stated by a caller is worded. -/
theorem RecordFault.message_ne_nil {fault : RecordFault} (h : ∀ reason, fault ≠ .stated reason) :
    fault.message ≠ [] := by
  have hleft : ∀ {piece rest : Text}, piece ≠ [] → piece ++ rest ≠ [] := fun h ↦
    List.append_ne_nil_of_left_ne_nil h _
  cases fault with
  | tooFewFields line => exact hleft (by decide)
  | noLineNumber field => exact hleft (by decide)
  | invalid why => exact why.message_ne_nil
  | repeats line => exact hleft (by decide)
  | repeatsKey key => exact hleft (hleft (hleft (hleft (hleft (by decide)))))
  | stated reason => exact absurd rfl (h reason)

/-- **A fault that is found in a list with a name is reported with its line.** -/
theorem Failure.ofRecord_eq {source : Text} {n : Nat} {fault : RecordFault} (hsource : source ≠ [])
    (hn : 0 < n) (hfault : ∀ reason, fault ≠ .stated reason) :
    ofRecord source n fault = .record source n fault := by
  rw [ofRecord, if_neg hsource, if_neg (by omega), if_neg (RecordFault.message_ne_nil hfault),
    Int.toNat_natCast]

end StyleLinter
