import StyleLinter.Invalid
import StyleLinter.Kind

/-!
# Configuration of a run

What the rules allow and what is reported. A configuration is built from a `Draft`, whose fields
have defaults and may hold anything; `Draft.check` refuses what makes no sense, so a `Config` that
exists is sound.
-/

namespace StyleLinter

/-- The usual extension of source files. -/
def defaultExtension : Text := ".lean"

theorem defaultExtension_dot : defaultExtension.head? = some '.' := rfl

theorem defaultExtension_long : 2 ≤ defaultExtension.length := by decide

/-- The strings that no line of code may begin with, unless a run says otherwise. -/
def defaultForbidden : List Text := ["#eval", "#print", "#check", "#reduce"]

/-- What a run is configured with. -/
structure Config where
  /-- The extension of source files. -/
  extension : Text
  /-- The most characters that a line may have. -/
  lineLimit : Nat
  /-- The most lines that a file may have. -/
  fileLimit : Nat
  /-- The strings that no line of code may begin with. -/
  forbidden : List Text
  /-- The kinds to report, in increasing order; all of them if there are none here. -/
  kinds : Option (List Text)
  /-- Are the files those that version control knows? -/
  tracked : Bool
  extension_dot : extension.head? = some '.'
  extension_long : 2 ≤ extension.length
  lineLimit_pos : 0 < lineLimit
  fileLimit_pos : 0 < fileLimit
  forbidden_ne_nil : ∀ s ∈ forbidden, s ≠ []
  kinds_isTag : ∀ ks, kinds = some ks → ∀ k ∈ ks, Kind.isTag k = true

/-- A configuration before it is checked. -/
structure Config.Draft where
  /-- The extension of source files. -/
  extension : Text := defaultExtension
  /-- The most characters that a line may have. -/
  lineLimit : Int := 100
  /-- The most lines that a file may have. -/
  fileLimit : Int := 1500
  /-- The strings that no line of code may begin with. -/
  forbidden : List Text := defaultForbidden
  /-- The kinds to report, in any order. -/
  kinds : Option (List Text) := none
  /-- Are the files those that version control knows? -/
  tracked : Bool := false

namespace Config

/-- Where all kinds are reported, none is listed that could be malformed. -/
theorem isTag_of_none :
    ∀ ks, (none : Option (List Text)) = some ks → ∀ k ∈ ks, Kind.isTag k = true := nofun

/-- The texts in increasing order, each once. -/
def inOrder (ts : List Text) : List Text := ts.eraseDups.mergeSort Text.le

theorem mem_inOrder {ts : List Text} {t : Text} : t ∈ inOrder ts ↔ t ∈ ts := by
  rw [inOrder, List.mem_mergeSort, List.mem_eraseDups]

/-- The configuration of a draft. -/
def Draft.check (d : Draft) : Except Invalid Config :=
  if hd : d.extension.head? = some '.' ∧ 2 ≤ d.extension.length then
    if hl : d.lineLimit < 1 then .error (.lineLimit d.lineLimit)
    else if hf : d.fileLimit < 1 then .error (.fileLimit d.fileLimit)
    else if hs : ∀ s ∈ d.forbidden, s ≠ [] then
      if hk : ∀ k ∈ d.kinds.getD [], Kind.isTag k = true then
        .ok {
          extension := d.extension
          lineLimit := d.lineLimit.toNat
          fileLimit := d.fileLimit.toNat
          forbidden := d.forbidden
          kinds := d.kinds.map inOrder
          tracked := d.tracked
          extension_dot := hd.1
          extension_long := hd.2
          lineLimit_pos := by omega
          fileLimit_pos := by omega
          forbidden_ne_nil := hs
          kinds_isTag := by
            intro ks hks k hmem
            obtain ⟨l, hl, rfl⟩ := Option.map_eq_some_iff.mp hks
            exact hk k (by simpa [hl] using mem_inOrder.mp hmem) }
      else
        .error (.malformedKinds (inOrder ((d.kinds.getD []).filter (!Kind.isTag ·))))
    else .error .emptyForbidden
  else .error (.extension d.extension)

/-- Are findings of this kind reported? -/
def reports (c : Config) (kind : Text) : Bool :=
  match c.kinds with
  | none => true
  | some ks => ks.contains kind

end Config

end StyleLinter
