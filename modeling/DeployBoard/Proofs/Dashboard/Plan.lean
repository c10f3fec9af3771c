import DeployBoard.Dashboard.Plan
import DeployBoard.Proofs.Text.Width

/-!
# `Proofs.Dashboard.Plan` — texts that are cut to the screen

Header, status and footer stand in one line each, and a plan cuts them to the width of the screen. They fit, whatever
they were before and however wide the terminal shows a character (`planWith_fits`).
-/

namespace DeployBoard

open Text

/-- **The texts of one line fit** into the screen. -/
structure Plan.Fits (width : Char → Nat) (columns : Nat) (plan : Plan) : Prop where
  header : columnsOf width plan.header.toList ≤ columns
  status : columnsOf width plan.status.toList ≤ columns
  footer : columnsOf width plan.footer.toList ≤ columns

theorem Dashboard.planWith_fits (s : Dashboard) (width : Char → Nat) (title url : String) (columns : Nat) :
    (s.planWith width title url columns).Fits width columns where
  header := columnsOf_truncateWith_le width _ columns
  status := columnsOf_truncateWith_le width _ columns
  footer := columnsOf_truncateWith_le width _ columns

/-- **Cutting keeps the longest part that fits.** However wide characters are: what is kept of a text is its longest first part
    that fits, with all characters behind it that take no column; of no columns nothing is kept. Cutting twice is cutting to
    the smaller width. The texts of one line in a plan fit into the screen that the plan is for. -/
theorem cut_keeps_longest_fitting (width : Char → Nat) :
    (∀ (s : String) (columns : Nat), 1 ≤ columns →
      LongestFitting width columns s.toList (truncateWith width s columns).toList) ∧
    (∀ s : String, truncateWith width s 0 = "") ∧
    (∀ (s : String) (a b : Nat),
      truncateWith width (truncateWith width s a) b = truncateWith width s (min a b)) ∧
    ∀ (s : Dashboard) (title url : String) (columns : Nat),
      (s.planWith width title url columns).Fits width columns := by
  refine ⟨?_, truncateWith_zero width, truncateWith_truncateWith width, ?_⟩
  · intro s columns hcolumns
    rw [toList_truncateWith (Nat.ne_of_gt hcolumns)]
    exact longestFitting_takeColumns width columns s.toList
  · intro s title url columns
    exact s.planWith_fits width title url columns

/-- A wide character is not halved: of three the screen shows two in five columns. Marks without a width of their own stay
    with the last character that fits. -/
theorem cut_between_wide_characters :
    LongestFitting charWidth 5 "日本語".toList "日本".toList ∧
      LongestFitting charWidth 1 "e\u0301\u0323x".toList "e\u0301\u0323".toList := by
  have hwide : truncateWith charWidth "日本語" 5 = "日本" := by decide +kernel
  have hmarks : truncateWith charWidth "e\u0301\u0323x" 1 = "e\u0301\u0323" := by decide +kernel
  have hlongest := (cut_keeps_longest_fitting charWidth).1
  refine ⟨?_, ?_⟩
  · rw [← hwide]
    exact hlongest "日本語" 5 (by decide)
  · rw [← hmarks]
    exact hlongest "e\u0301\u0323x" 1 (by decide)

end DeployBoard
