import StyleLinter.CommandLine.Stream
import StyleLinter.Proofs.Console.Tags

/-!
# Text without brackets

Every tag begins with a left bracket, so a text that has none is shown as one piece, and **showing
it cannot fail** (`announcement_of_no_bracket`). That is all that is needed about the message of an
update: its own words have no brackets, and whether the message can be shown depends on the path of
the list alone.
-/

namespace StyleLinter

namespace Console.Markup

theorem showText_nil : showText [] = [] := by
  rw [showText, dropBracketEscapes, Emoji.replace]
  rfl

/-- Where there is nothing to show, it makes no difference that there is no piece. -/
theorem showPieces_shownUnlessEmpty (opened : List Text) (t : Text) (ps : List Piece) :
    showPieces opened (shownUnlessEmpty t ++ ps) =
      (showPieces opened ps).map (showText t ++ ·) := by
  rw [shownUnlessEmpty]
  split
  · next hempty =>
    rw [List.isEmpty_iff.mp hempty, showText_nil]
    exact (congrFun Except.map_id _).symm
  · rfl

/-- **Clear text can be shown.** -/
theorem plain?_of_isClear {t : Text} (h : IsClear t) : plain? t = .ok (showText t) := by
  rw [plain?, pieces_of_isClear h, ← List.append_nil (shownUnlessEmpty t),
    showPieces_shownUnlessEmpty, showPieces]
  exact congrArg Except.ok (List.append_nil _)

theorem plain?_of_no_bracket {t : Text} (h : '[' ∉ t) : ∃ shown, plain? t = .ok shown :=
  ⟨_, plain?_of_isClear (isClear_of_not_mem h)⟩

end Console.Markup

/-- **Text without brackets can be announced.** -/
theorem CommandLine.announcement_of_no_bracket {t : Text} (h : '[' ∉ t) :
    ∃ err, announcement t = .ok err := by
  obtain ⟨shown, hshown⟩ := Console.Markup.plain?_of_no_bracket h
  rw [announcement, hshown]
  exact ⟨_, rfl⟩

end StyleLinter
