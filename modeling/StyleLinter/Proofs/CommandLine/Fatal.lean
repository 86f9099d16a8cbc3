import Mathlib
import StyleLinter.CommandLine.Run
import StyleLinter.Proofs.CommandLine.Unbroken
import StyleLinter.Proofs.Console.Closing
import StyleLinter.Proofs.Console.Escape
import StyleLinter.Proofs.ExceptionList.Grammar
import StyleLinter.Proofs.Registry.Loading

/-!
# Fatal failures

A command that meets a failure it expects ends with status 2, whatever the failure says: an escaped
message can always be shown (`fatal_eq`). **Not every message is printed as it is**, only one that
is `IsVerbatim`: it has no tabs and no control characters, its stretches are faithful, it does not
end with a single backslash, and its lines are short enough or end with spaces only. Nothing that is
lost can be made up for, so there is no other way (`fatalText_eq_iff`).

The number of a line stands between two colons, as a code does. So **the place of a malformed record
is named, except in the lines 100 and 1234** (`placeText_prefix_iff`).
-/

namespace StyleLinter.CommandLine

open Console Markup

variable {host : Host} {words : List Text} {r : Request} {a : Attempt Ending} {f : Failure}
  {m source : Text} {n : Nat}

/-! ### What is printed -/

/-- What is printed about a fatal failure with a message. -/
def fatalText (m : Text) : Text := linesText (unbroken width ("error: " ++ showing (closed m)))

/-- The style of the label. -/
def labelStyle : Text := "bold red"

theorem showText_label : showText "error:" = "error:" := by
  have hcolon : Emoji.replace [':'] = [':'] :=
    (Emoji.replace_of_no_code rfl).trans (congrArg (':' :: ·) Emoji.replace_nil)
  have hreplace : Emoji.replace ("error" ++ [':']) = "error" ++ [':'] := by
    rw [Emoji.replace_append (by decide), hcolon]
  exact congrArg visible hreplace

/-- **The label is shown**, and its style is closed after it. -/
theorem plain?_label (t : Text) :
    plain? ("[bold red]error:[/bold red]" ++ t) = (plain? t).map ("error:".toList ++ ·) := by
  have hbegins {c : Char} {more : Text} (hc : beginsTag c = true) (hopening : '[' ∉ c :: more)
      (hclosing : ']' ∉ c :: more) : IsInside (c :: more) :=
    ⟨⟨c, more, rfl, hc⟩, hopening, hclosing⟩
  have hopening : IsInside labelStyle := hbegins (by decide) (by decide) (by decide)
  have hclosing : IsInside ('/' :: labelStyle) := hbegins (by decide) (by decide) (by decide)
  have hfront : IsFront "error:" := ⟨isClear_of_not_mem (by decide), by decide⟩
  have hpieces : pieces ("[bold red]error:[/bold red]" ++ t) =
      .tag labelStyle :: (shownUnlessEmpty "error:" ++ .tag ('/' :: labelStyle) :: pieces t) :=
    (pieces_tag_cons hopening _).trans
      (congrArg (.tag labelStyle :: ·) (pieces_append_tag hfront 0 hclosing t))
  have htrim : Text.trim labelStyle = labelStyle := by decide
  have hopen : step [] labelStyle = .ok [Style.normalize labelStyle] := step_of_opens (by decide)
  have hclose : Moves [Style.normalize (Text.trim labelStyle)] ('/' :: labelStyle)
      ([Style.normalize (Text.trim labelStyle)].erase (Style.normalize (Text.trim labelStyle))) :=
    .closes rfl (by decide) List.mem_cons_self
  rw [htrim, List.erase_cons_head, ← step_eq_ok_iff] at hclose
  rw [plain?, hpieces, showPieces, hopen]
  show showPieces [Style.normalize labelStyle] _ = _
  rw [showPieces_shownUnlessEmpty, showPieces, hclose, showText_label]
  rfl

/-- **A message that is escaped can always be shown** after its label. -/
theorem plain?_label_escape (m : Text) :
    plain? ("[bold red]error:[/bold red] " ++ escape m) =
      .ok ("error: " ++ showing (closed m)) := by
  have hblank : IsOrdinary ' ' := ⟨by decide, by decide, by decide, rfl⟩
  have hmessage : plain? (' ' :: escape m) = .ok (' ' :: showing (closed m)) := by
    rw [escape_eq, ← escapeTags_cons (by decide) (by decide), ← showing_cons hblank]
    exact plain?_escapeTags _
  have hlabel : "[bold red]error:[/bold red] ".toList = "[bold red]error:[/bold red]" ++ [' '] := by
    decide
  rw [hlabel, List.append_assoc, List.singleton_append, plain?_label, hmessage]
  rfl

/-- **A fatal failure can always be announced.** -/
theorem fatal_eq (f : Failure) : fatal f = .ok (fatalText f.message) := by
  rw [fatal, plain?_label_escape]
  rfl

/-! ### Messages that are printed as they are -/

/-- Is the message of a fatal failure printed as it is? -/
structure IsVerbatim (m : Text) : Prop where
  /-- It has no tabs and no control characters. -/
  shown : ∀ c ∈ m, c ≠ '\t' ∧ isHidden c = false
  /-- It has no codes that are replaced, and no backslashes that are dropped. -/
  faithful : ∀ s ∈ stretches m, IsFaithful s
  /-- It does not end with a single backslash. -/
  closed : closed m = m
  /-- What does not fit on the screen is spaces. -/
  fitting : ∀ line ∈ Text.pieces '\n' ("error: " ++ m),
    ∀ c ∈ line.drop (max width (Text.trimEnd line).length), c = ' '

/-- A message is as it is, or it ends with a single backslash. -/
theorem closed_eq_or (m : Text) :
    closed m = m ∨ ∃ u, ¬ ['\\'] <:+ u ∧ m = u ++ ['\\'] ∧ closed m = u ++ ['\\', '\\'] := by
  rw [closed]
  split
  · next h =>
    obtain ⟨hone, htwo⟩ := Bool.and_eq_true_iff.mp h
    obtain ⟨u, rfl⟩ := List.isSuffixOf_iff_suffix.mp hone
    refine .inr ⟨u, ?_, rfl, List.append_assoc _ _ _⟩
    rintro ⟨v, hv⟩
    rw [Bool.not_eq_true', ← Bool.not_eq_true, Text.endsWith, List.isSuffixOf_iff_suffix] at htwo
    exact htwo ⟨v, by rw [← hv, List.append_assoc]; rfl⟩
  · exact .inl rfl

/-- **Faithful stretches show their text** if it has no control characters. -/
theorem showing_eq_self (hshown : ∀ c ∈ m, c ≠ '\t' ∧ isHidden c = false)
    (hfaithful : ∀ s ∈ stretches m, IsFaithful s) : showing m = m :=
  (showing_of_isFaithful hfaithful).trans
    (List.filter_eq_self.mpr fun c hc ↦ by rw [(hshown c hc).2]; rfl)

/-- What is printed of a message whose characters are all shown. -/
theorem linesText_label_eq_iff (hshown : ∀ c ∈ m, c ≠ '\t' ∧ isHidden c = false) :
    linesText (unbroken width ("error: " ++ m)) = linesText (Text.pieces '\n' ("error: " ++ m)) ↔
      ∀ line ∈ Text.pieces '\n' ("error: " ++ m),
        ∀ c ∈ line.drop (max width (Text.trimEnd line).length), c = ' ' := by
  refine linesText_unbroken_eq_iff ?_ width
  rw [List.mem_append, not_or]
  exact ⟨by decide, fun hmem ↦ (hshown _ hmem).1 rfl⟩

/-- A single backslash at the end is printed twice. -/
theorem closed_of_fatalText (h : fatalText m = linesText (Text.pieces '\n' ("error: " ++ m))) :
    closed m = m := by
  refine (closed_eq_or m).resolve_right fun ⟨u, hu, hm, hclosed⟩ ↦ ?_
  have hshown : "error: " ++ showing (closed m) = "error: " ++ showing u ++ ['\\', '\\'] := by
    rw [hclosed, List.append_cons u, showing_concat_slash, showing_concat_slash]
    simp only [List.append_assoc, List.singleton_append]
  have hend : ¬ ['\\'] <:+ "error: " ++ u := by
    rw [show "error: " ++ u = "error:" ++ [' '] ++ u from rfl, suffix_append_iff (by decide)]
    exact hu
  have htwo := suffix_linesText_unbroken width ("error: " ++ showing u)
  rw [← hshown, ← fatalText, h, hm, ← List.append_assoc] at htwo
  exact not_suffix_linesText_pieces hend htwo

/-- What a printed message has besides blanks is printed as often. -/
theorem count_showing_closed {c : Char} (hc : Text.isBlank c = false)
    (h : fatalText m = linesText (Text.pieces '\n' ("error: " ++ m))) :
    (showing (closed m)).count c = m.count c := by
  have hspace : c ≠ ' ' := by rintro rfl; exact absurd hc (by decide)
  have hbreak : c ≠ '\n' := by rintro rfl; exact absurd hc (by decide)
  have hcount := congrArg (List.count c) h
  rw [fatalText, count_linesText_unbroken hc, count_linesText_pieces hspace hbreak,
    List.count_append, List.count_append] at hcount
  exact Nat.add_left_cancel hcount

theorem faithful_of_fatalText
    (h : fatalText m = linesText (Text.pieces '\n' ("error: " ++ m))) :
    ∀ s ∈ stretches m, IsFaithful s := by
  have hcount {c : Char} (hc : Text.isBlank c = false) := count_showing_closed hc h
  rw [closed_of_fatalText h] at hcount
  exact isFaithful_of_count (hcount (by decide)) (hcount (by decide))

/-- A character that is printed is no tab and no control character. -/
theorem shown_of_fatalText (h : fatalText m = linesText (Text.pieces '\n' ("error: " ++ m))) :
    ∀ c ∈ m, c ≠ '\t' ∧ isHidden c = false := by
  intro c hc
  by_cases hblank : c = ' ' ∨ c = '\n'
  · rcases hblank with rfl | rfl <;> decide
  · obtain ⟨hspace, hbreak⟩ := not_or.mp hblank
    have hprinted : c ∈ fatalText m := by
      rw [h, ← List.count_pos_iff, count_linesText_pieces hspace hbreak, List.count_pos_iff]
      exact List.mem_append_right _ hc
    rw [fatalText, closed_of_fatalText h,
      showing_of_isFaithful (faithful_of_fatalText h)] at hprinted
    obtain ⟨htab, hmem⟩ :=
      ((mem_linesText_unbroken hprinted).resolve_left hspace).resolve_left hbreak
    have hvisible : c ∈ visible ("error: ".toList ++ m) := by
      rw [visible_append]
      exact hmem
    have hshown := (List.mem_filter.mp hvisible).2
    rw [Bool.not_eq_true'] at hshown
    exact ⟨htab, hshown⟩

/-- **The messages that are printed as they are**, up to spaces at the ends of lines. -/
theorem fatalText_eq_iff :
    fatalText m = linesText (Text.pieces '\n' ("error: " ++ m)) ↔ IsVerbatim m := by
  constructor
  · intro h
    have hshown := shown_of_fatalText h
    have hfaithful := faithful_of_fatalText h
    have hclosed := closed_of_fatalText h
    rw [fatalText, hclosed, showing_eq_self hshown hfaithful, linesText_label_eq_iff hshown] at h
    exact ⟨hshown, hfaithful, hclosed, h⟩
  · intro h
    rw [fatalText, h.closed, showing_eq_self h.shown h.faithful, linesText_label_eq_iff h.shown]
    exact h.fitting

/-! ### The place of a malformed record -/

/-- Is the character printed wherever it stands? -/
def IsPrinted (c : Char) : Prop := IsOrdinary c ∧ c ≠ '\t' ∧ c ≠ '\n'

instance : DecidablePred IsPrinted := fun _ ↦ inferInstanceAs (Decidable (_ ∧ _))

theorem isCode_ofNat (n : Nat) : Emoji.IsCode (Text.ofNat n) := fun c hc ↦
  ⟨fun h ↦ Text.not_mem_ofNat (by decide) n (h ▸ hc),
    Text.not_isBlank_of_isDigit (Text.isDigit_of_mem_ofNat hc)⟩

/-- The code of a number is shown as it is, unless the number is one of the two that name
pictographs. -/
theorem visible_meaning_ofNat (h : n ≠ 100 ∧ n ≠ 1234) :
    visible (Emoji.meaning (Text.ofNat n)) = ':' :: (Text.ofNat n ++ [':']) := by
  rw [Emoji.meaning_ofNat h]
  refine List.filter_eq_self.mpr fun c hc ↦ ?_
  have hlow : 48 ≤ c.toNat := by
    rcases List.mem_cons.mp hc with rfl | hc
    · decide
    · rcases List.mem_append.mp hc with hc | hc
      · exact (Text.toNat_of_mem_ofNat hc).1
      · rw [List.mem_singleton.mp hc]
        decide
  rw [Bool.not_eq_true', Bool.eq_false_iff]
  intro hhidden
  simp only [isHidden, Bool.or_eq_true, beq_iff_eq] at hhidden
  omega

/-- **What is printed of a malformed record**: its source, and what the number of its line means. -/
theorem exists_fatalText_record (hsource : ∀ c ∈ source, IsPrinted c) (n : Nat)
    (fault : RecordFault) :
    ∃ rest, fatalText (Failure.record source n fault).message = linesText (unbroken width
      ("error: ".toList ++ source ++ (visible (Emoji.meaning (Text.ofNat n)) ++ rest))) := by
  have hopening : '[' ∉ Text.ofNat n := Text.not_mem_ofNat (by decide) n
  have hslash : '\\' ∉ Text.ofNat n := Text.not_mem_ofNat (by decide) n
  obtain ⟨fin, hfin⟩ : ∃ fin, closed (Failure.record source n fault).message =
      (Failure.record source n fault).message ++ fin := by
    rw [closed]
    split
    · exact ⟨_, rfl⟩
    · exact ⟨[], (List.append_nil _).symm⟩
  have hmessage : (Failure.record source n fault).message ++ fin = source
      ++ ':' :: (Text.ofNat n
        ++ ':' :: (" malformed exception record: " ++ fault.message ++ fin)) := by
    have hcolon : ":".toList = [':'] := rfl
    have hwords :
        ": malformed exception record: ".toList = ':' :: " malformed exception record: " := rfl
    show source ++ ":".toList ++ Text.ofNat n ++ ": malformed exception record: ".toList
      ++ fault.message ++ fin = _
    rw [hcolon, hwords]
    simp only [List.append_assoc, List.cons_append, List.nil_append]
  rw [fatalText, hfin, hmessage, showing_append fun c hc ↦ (hsource c hc).1,
    showing_code (isCode_ofNat n) hopening hslash, ← List.append_assoc]
  exact ⟨_, rfl⟩

/-- The place of a malformed record, as a message names it. -/
def placeText (source : Text) (n : Nat) : Text := "error: " ++ source ++ ":" ++ Text.ofNat n ++ ":"

/-- **The place of a malformed record is named**, unless the number of its line is one of the two
that name pictographs. -/
theorem placeText_prefix_iff (hsource : ∀ c ∈ source, IsPrinted c) (n : Nat) (fault : RecordFault) :
    placeText source n <+: fatalText (Failure.record source n fault).message ↔
      n ≠ 100 ∧ n ≠ 1234 := by
  obtain ⟨rest, hrest⟩ := exists_fatalText_record hsource n fault
  have hlabel {c : Char} (hc : c ∉ "error: ".toList) (hprinted : ¬ IsPrinted c) :
      c ∉ "error: ".toList ++ source := by
    rw [List.mem_append, not_or]
    exact ⟨hc, fun hmem ↦ hprinted (hsource c hmem)⟩
  have htab : '\t' ∉ "error: ".toList ++ source := hlabel (by decide) (by decide)
  have hbreak : '\n' ∉ "error: ".toList ++ source := hlabel (by decide) (by decide)
  have hplace : placeText source n =
      "error: ".toList ++ source ++ ':' :: (Text.ofNat n ++ [':']) := by
    show "error: ".toList ++ source ++ [':'] ++ Text.ofNat n ++ [':'] = _
    simp only [List.append_assoc, List.cons_append, List.nil_append]
  constructor
  · -- a pictograph is printed in the place of the first colon
    have hreplaced {c : Char} (hc : Text.isBlank c = false) (hcolon : c ≠ ':')
        (hmeaning : visible (Emoji.meaning (Text.ofNat n)) = [c]) :
        ¬ placeText source n <+: fatalText (Failure.record source n fault).message := by
      rw [hrest, hmeaning, hplace]
      exact not_prefix_linesText_unbroken hc hcolon htab hbreak
    refine fun hprefix ↦ ⟨?_, ?_⟩
    · rintro rfl
      exact hreplaced (c := '💯') (by decide) (by decide) (by decide +kernel) hprefix
    · rintro rfl
      exact hreplaced (c := '🔢') (by decide) (by decide) (by decide +kernel) hprefix
  · intro hn
    have hnumber {c : Char} (hc : c ∉ "error: ".toList ++ source) (hcolon : c ≠ ':')
        (hlow : c.toNat < 48) : c ∉ "error: ".toList ++ source ++ ':' :: Text.ofNat n := by
      rw [List.mem_append, List.mem_cons, not_or, not_or]
      exact ⟨hc, hcolon, fun hmem ↦ absurd (Text.toNat_of_mem_ofNat hmem).1 (by omega)⟩
    have hprefix := prefix_linesText_unbroken (c := ':') (by decide)
      (hnumber htab (by decide) (by decide)) (hnumber hbreak (by decide) (by decide)) width rest
    rw [hrest, hplace, visible_meaning_ofNat hn]
    simp only [List.append_assoc, List.cons_append, List.nil_append] at hprefix ⊢
    exact hprefix

/-! ### Runs -/

/-- The failures that a command expects. -/
def Command.expects : Command → Failure → Bool
  | .lint => fun f ↦ f.isOwn || f.isRefusal
  | _ => Failure.isOwn

/-- What a request attempts on a host, if its values make a configuration. -/
def Request.attempt (r : Request) (host : Host) : Except Invalid (Attempt Ending) :=
  match r.command with
  | .files => .ok (files r.settings host)
  | .modules => .ok (modules r.settings host)
  | .libraries => .ok (CommandLine.libraries r.settings host)
  | .aggregate => .ok (aggregate r.settings host).2
  | .audit => r.settings.config.map fun config ↦ audit r.settings config host
  | .lint => r.settings.config.map fun config ↦ (lint r.settings config host).2

/-- **A run ends as what is attempted does.** -/
theorem run_of_attempt (h : r.attempt host = .ok a) :
    (run host r).notes = a.notes ∧ (run host r).ending = ended r.command.expects a := by
  obtain ⟨verbose, command, s⟩ := r
  cases command with
  | files | modules | libraries | aggregate =>
    cases h
    exact ⟨rfl, rfl⟩
  | audit | lint =>
    obtain ⟨config, hconfig, rfl⟩ := map_eq_ok_iff.mp h
    rw [run]
    simp only [hconfig]
    exact ⟨rfl, rfl⟩

/-- **A failure that a command expects ends it with status 2**, and is announced after the log. -/
theorem ending_of_fatal (hr : Request.ofWords host.disk words = .ok r)
    (ha : r.attempt host = .ok a) (hf : a.outcome = .error f)
    (hexpects : r.command.expects f = true) :
    (runWords host words).ending =
      .exit 2 [] (log r.verbose a.notes ++ fatalText f.message) := by
  obtain ⟨hnotes, hending⟩ := run_of_attempt ha
  have hended : ended r.command.expects a = .exit 2 [] (fatalText f.message) := by
    rw [ended, hf]
    show (if r.command.expects f then _ else _) = _
    rw [if_pos hexpects, fatal_eq]
  rw [runWords, hr]
  show (run host r).ending.withLog _ = _
  rw [hnotes, hending, hended]
  rfl

/-- A list whose line 100 is malformed. -/
def malformedList : Text := List.replicate 99 '\n' ++ "bad\n"

/-- A host with this list. -/
def malformedHost : Host where
  disk :=
    { tree := Files.Tree.empty.put ["list"] (.file {} (Utf8.encode malformedList))
      current := [] }
  git := none

/-- An audit with this list. -/
def malformedRequest : Request where
  verbose := false
  command := .audit
  settings := { roots := ["A"], exceptions := some ⟨0, ["list"]⟩ }

theorem request_malformedHost :
    Request.ofWords malformedHost.disk ["audit-exceptions", "A", "-e", "list"] =
      .ok malformedRequest := by cbv

theorem readText_malformedHost :
    malformedHost.readText malformedRequest.settings.list = .ok malformedList :=
  Registry.readText_eq_ok_iff.mpr
    ⟨Utf8.encode malformedList, malformedList, by cbv, Utf8.decode_encode _, by decide +kernel⟩

/-- The failure that the list makes. -/
def malformedFailure : Failure := .record "list" 100 (.tooFewFields "bad")

theorem ofFile_malformedHost :
    Registry.ofFile malformedHost malformedRequest.settings.list = .error malformedFailure := by
  have hparse : ExceptionList.parse malformedList "list" = .error malformedFailure := rfl
  have hsource : malformedRequest.settings.list.toText = "list" := by cbv
  rw [Registry.ofFile_of_readText readText_malformedHost, hsource, Registry.ofText, hparse]

theorem audit_malformedHost (config : Config) :
    audit malformedRequest.settings config malformedHost = .fail malformedFailure := by
  have hregistry : Registry.ofFileIfThere malformedHost malformedRequest.settings.list true =
      .fail malformedFailure := congrArg Attempt.ofExcept ofFile_malformedHost
  show (Registry.ofFileIfThere malformedHost malformedRequest.settings.list true >>= _) = _
  rw [hregistry]
  rfl

end StyleLinter.CommandLine
