import DeployBoard.Proofs.TextBox.Sound

/-!
# `Proofs.TextBox.Clear` — when emptying the cursor's line empties the box

A text box is emptied by two deletions, one towards the beginning of the text and one towards its end, and each
takes a part of one line, or one line break, and no more. A selection goes in place of the first. So the box
is empty afterwards when that is all there was (`clearLine_text_eq_empty_iff`): on a box with one line and no
selection always, on one with more lines, or with a selection inside a line, hardly ever.
-/

namespace DeployBoard
namespace TextBox

/-- The text before a place. -/
def textBefore (lines : List Line) (place : Place) : List Line :=
  lines.take place.row ++ [(lineAt lines place.row).take place.column]

/-- The text after a place. -/
def textAfter (lines : List Line) (place : Place) : List Line :=
  (lineAt lines place.row).drop place.column :: lines.drop (place.row + 1)

/-- **One deletion takes all of it**: it is in one line, or it is one line break. -/
def OneDeletion (piece : List Line) : Prop := piece.length = 1 ∨ piece = lineBreak

instance (piece : List Line) : Decidable (OneDeletion piece) :=
  inferInstanceAs (Decidable (piece.length = 1 ∨ piece = lineBreak))

theorem oneDeletion_cons_iff {line : Line} {rest : List Line} :
    OneDeletion (line :: rest) ↔ rest = [] ∨ line = [] ∧ rest = [[]] := by
  unfold OneDeletion lineBreak
  simp

theorem oneDeletion_concat_iff {line : Line} {front : List Line} :
    OneDeletion (front ++ [line]) ↔ front = [] ∨ front = [[]] ∧ line = [] := by
  unfold OneDeletion lineBreak
  cases front with
  | nil => simp
  | cons first rest => cases rest <;> simp

/-- **Two deletions empty the box**: one deletion takes what is before the cursor, or there is nothing before the
    selection, which goes instead; and one takes what is after it. -/
def TwoDeletionsEmpty (b : TextBox) : Prop :=
  match b.selection? with
  | some (first, last) => textBefore b.lines first = [[]] ∧ OneDeletion (textAfter b.lines last)
  | none => OneDeletion (textBefore b.lines b.cursor) ∧ OneDeletion (textAfter b.lines b.cursor)

instance (b : TextBox) : Decidable (TwoDeletionsEmpty b) :=
  match h : b.selection? with
  | some (first, last) =>
    decidable_of_iff (textBefore b.lines first = [[]] ∧ OneDeletion (textAfter b.lines last))
      (by simp only [TwoDeletionsEmpty, h])
  | none =>
    decidable_of_iff (OneDeletion (textBefore b.lines b.cursor) ∧ OneDeletion (textAfter b.lines b.cursor))
      (by simp only [TwoDeletionsEmpty, h])

/-! ## Empty texts -/

/-- A text is shown as nothing exactly when it has no line or one empty one. -/
theorem text_eq_empty_iff {b : TextBox} (hb : b.lines ≠ []) : b.text = "" ↔ b.lines = [[]] := by
  have hempty : b.text = "" ↔ List.intercalate [' '] b.lines = [] := by
    unfold text
    rw [← String.ofList_nil, String.ofList_inj]
  rw [hempty]
  cases hlines : b.lines with
  | nil => exact absurd hlines hb
  | cons line rest =>
      cases rest with
      | nil => simp
      | cons next rest => simp [List.intercalate]

variable {above below : List Line} {left right : Line}

/-- The box is cut at its cursor. -/
structure CutAt (b : TextBox) (above : List Line) (left right : Line) (below : List Line) : Prop where
  lines : b.lines = above ++ (left ++ right) :: below
  cursor : b.cursor = ⟨above.length, left.length⟩

theorem textBefore_split (above below : List Line) (left right : Line) :
    textBefore (above ++ (left ++ right) :: below) ⟨above.length, left.length⟩ = above ++ [left] := by
  unfold textBefore
  simp

theorem textAfter_split (above below : List Line) (left right : Line) :
    textAfter (above ++ (left ++ right) :: below) ⟨above.length, left.length⟩ = right :: below := by
  unfold textAfter
  rw [lineAt_append_length, List.drop_left, ← List.drop_drop, List.drop_left]
  rfl

theorem Sound.cutAt {b : TextBox} (hb : Sound b) : ∃ above left right below, CutAt b above left right below := by
  obtain ⟨above, left, right, below, hlines, hcursor⟩ := hb.cursor.split
  exact ⟨above, left, right, below, hlines, hcursor⟩

/-! ## The two deletions -/

variable {b : TextBox}

theorem CutAt.line (hb : CutAt b above left right below) : b.line = left ++ right := by
  unfold TextBox.line
  rw [hb.cursor, hb.lines, lineAt_append_length]

/-- Taking out what lies between two places, the box is cut at the first. -/
theorem cutAt_removeRange {rest : Line} {lower above' : List Line} {left' : Line} {first last : Place}
    (hfirst : b.lines = above ++ (left ++ rest) :: lower) (hlast : b.lines = above' ++ (left' ++ right) :: below)
    (hplace : first = ⟨above.length, left.length⟩) (hplace' : last = ⟨above'.length, left'.length⟩) :
    CutAt (b.removeRange first last) above left right below := by
  refine ⟨?_, hplace⟩
  show removeBetween b.lines first last = _
  rw [hplace, hplace', hfirst]
  exact removeBetween_split (hfirst ▸ hlast)

theorem cutAt_removePart {first last : Nat}
    (h : CutAt (b.removeRange ⟨b.cursor.row, first⟩ ⟨b.cursor.row, last⟩) above left right below) :
    CutAt (b.removePart first last) above left right below := ⟨h.lines, h.cursor⟩

/-- **The deletion towards the beginning** leaves nothing before the cursor when it could take all of it. -/
theorem CutAt.deleteToStart (hb : CutAt b above left right below) :
    ∃ above' left', CutAt b.deleteToStart above' left' right below ∧
      (above' = [] ∧ left' = [] ↔ OneDeletion (above ++ [left])) := by
  have hcursor := hb.cursor
  unfold TextBox.deleteToStart
  cases left with
  | cons c cs =>
      rw [if_neg (by rw [hcursor]; simp)]
      have hlines : b.lines = above ++ ([] ++ (c :: cs ++ right)) :: below := hb.lines
      have hrow : b.cursor.row = above.length := by rw [hcursor]
      have hcolumn : b.cursor.column = (c :: cs).length := by rw [hcursor]
      refine ⟨above, [], cutAt_removePart (cutAt_removeRange hlines hb.lines ?_ ?_), ?_⟩
      · rw [hrow]; rfl
      · rw [hrow, hcolumn]
      · simp [oneDeletion_concat_iff]
  | nil =>
      rw [if_pos (by rw [hcursor]; rfl)]
      unfold TextBox.joinBefore
      rcases List.eq_nil_or_concat above with rfl | ⟨front, line, rfl⟩
      · rw [if_pos (by rw [hcursor]; rfl)]
        exact ⟨[], [], hb, by simp [OneDeletion]⟩
      · -- The line break goes, and the line before is what is left before the cursor.
        rw [List.concat_eq_append] at hb hcursor ⊢
        rw [if_neg (by rw [hcursor]; simp)]
        have hlines : b.lines = front ++ (line ++ []) :: right :: below := by
          rw [hb.lines]
          simp
        have hrow : b.cursor.row = (front ++ [line]).length := by rw [hcursor]
        have habove : b.cursor.row - 1 = front.length := by rw [hrow]; simp
        refine ⟨front, line, cutAt_removeRange hlines hb.lines ?_ ?_, ?_⟩
        · rw [habove, rowEnd, hlines, lineAt_append_length, List.append_nil]
        · rw [hrow]; rfl
        · rw [oneDeletion_concat_iff]
          cases front <;> simp

/-- **The deletion towards the end** empties the box when there is nothing before the cursor and it takes all that is
    after it. -/
theorem CutAt.deleteToEnd_lines (hb : CutAt b above left right below) :
    b.deleteToEnd.lines = [[]] ↔ (above = [] ∧ left = []) ∧ OneDeletion (right :: below) := by
  have hcursor := hb.cursor
  have hline := hb.line
  unfold TextBox.deleteToEnd
  cases right with
  | cons c cs =>
      rw [if_pos (by rw [hline, hcursor]; simp)]
      have hlines : b.lines = above ++ ((left ++ c :: cs) ++ []) :: below := by rw [hb.lines, List.append_nil]
      have hcut : CutAt (b.removePart b.cursor.column b.line.length) above left [] below := by
        refine cutAt_removePart (cutAt_removeRange hb.lines hlines hcursor ?_)
        rw [hline, hcursor]
      rw [hcut.lines, oneDeletion_cons_iff]
      cases above <;> simp
  | nil =>
      rw [List.append_nil] at hline
      rw [if_neg (by rw [hline, hcursor]; simp)]
      unfold TextBox.deleteAfter
      rw [if_neg (by rw [hline, hcursor]; simp)]
      cases below with
      | nil =>
          rw [if_neg (by rw [hcursor, hb.lines]; simp), hb.lines]
          cases above <;> simp [oneDeletion_cons_iff]
      | cons next lower =>
          rw [if_pos (by rw [hcursor, hb.lines]; simp)]
          have hlines : b.lines = (above ++ [left]) ++ ([] ++ next) :: lower := by
            rw [hb.lines]
            simp
          have hcut : CutAt (b.removeRange (rowEnd b.lines b.cursor.row) ⟨b.cursor.row + 1, 0⟩)
              above left next lower := by
            refine cutAt_removeRange hb.lines hlines ?_ ?_
            · rw [rowEnd, hcursor, hb.lines, lineAt_append_length, List.append_nil]
            · rw [hcursor]
              simp
          rw [hcut.lines, oneDeletion_cons_iff]
          cases above <;> simp [and_assoc]

/-! ## Both -/

theorem selectionOr_of_selection {first last : Place} (h : b.selection? = some (first, last))
    (delete : TextBox → TextBox) : b.selectionOr delete = b.deselect.removeRange first last := by
  unfold selectionOr removeSelection?
  rw [h]
  rfl

theorem selectionOr_of_none (h : b.selection? = none) (delete : TextBox → TextBox) :
    b.selectionOr delete = delete b.deselect := by
  unfold selectionOr removeSelection?
  rw [h]
  rfl

theorem deleteToStart_mark (b : TextBox) : b.deleteToStart.mark = b.mark := by
  unfold TextBox.deleteToStart TextBox.joinBefore
  split
  · split <;> rfl
  · rfl

theorem deleteToEnd_mark (b : TextBox) : b.deleteToEnd.mark = b.mark := by
  unfold TextBox.deleteToEnd TextBox.deleteAfter
  split
  · rfl
  · split
    · rfl
    · rfl

/-- Without a mark nothing is selected. -/
theorem selection?_of_mark (h : b.mark = none) : b.selection? = none := by
  unfold selection?
  rw [h]
  rfl

/-- Without a mark the line's end is deleted. -/
theorem CutAt.deleteToEnd_of_mark (hb : CutAt b above left right below) (hmark : b.mark = none) :
    (b.selectionOr TextBox.deleteToEnd).lines = [[]] ↔ (above = [] ∧ left = []) ∧ OneDeletion (right :: below) := by
  rw [selectionOr_of_none (selection?_of_mark hmark)]
  exact CutAt.deleteToEnd_lines ⟨hb.lines, hb.cursor⟩

/-- **Emptying its line empties a sound box exactly when two deletions do.** -/
theorem Sound.clearLine_text_eq_empty_iff (hb : Sound b) : b.clearLine.text = "" ↔ TwoDeletionsEmpty b := by
  have hne : b.clearLine.lines ≠ [] := fun h => by
    have hrow := hb.clearLine.cursor.1
    rw [h] at hrow
    cases hrow
  rw [text_eq_empty_iff hne]
  unfold TextBox.clearLine TwoDeletionsEmpty
  cases hselection : b.selection? with
  | some range =>
      -- The selection goes, and the box is cut where it began.
      obtain ⟨first, last⟩ := range
      obtain ⟨hfirst, hlast, _⟩ := hb.selection hselection
      obtain ⟨above, left, rest, lower, hlines, rfl⟩ := hfirst.split
      obtain ⟨above', left', right, below, hlines', rfl⟩ := hlast.split
      have hcut : CutAt (b.deselect.removeRange ⟨above.length, left.length⟩ ⟨above'.length, left'.length⟩)
          above left right below := cutAt_removeRange hlines hlines' rfl rfl
      have hbefore : textBefore b.lines ⟨above.length, left.length⟩ = above ++ [left] := by
        rw [hlines, textBefore_split]
      have hafter : textAfter b.lines ⟨above'.length, left'.length⟩ = right :: below := by
        rw [hlines', textAfter_split]
      rw [selectionOr_of_selection hselection, hcut.deleteToEnd_of_mark rfl]
      show _ ↔ textBefore b.lines _ = _ ∧ OneDeletion (textAfter b.lines _)
      rw [hbefore, hafter]
      cases above <;> simp
  | none =>
      -- The first deletion leaves what is after the cursor alone, so the second finds it as it was.
      obtain ⟨above, left, right, below, hb⟩ := hb.cutAt
      have hstart : CutAt b.deselect above left right below := ⟨hb.lines, hb.cursor⟩
      obtain ⟨above', left', hcut, hempty⟩ := hstart.deleteToStart
      rw [selectionOr_of_none hselection, hcut.deleteToEnd_of_mark (deleteToStart_mark _), hempty]
      show _ ↔ OneDeletion (textBefore b.lines b.cursor) ∧ OneDeletion (textAfter b.lines b.cursor)
      rw [hb.lines, hb.cursor, textBefore_split, textAfter_split]

/-- A box with one line and no selection is always emptied. -/
theorem Sound.twoDeletionsEmpty_of_one_line (hb : Sound b) (hline : b.lines.length = 1) (hnone : b.selection? = none) :
    TwoDeletionsEmpty b := by
  obtain ⟨above, left, right, below, hcut⟩ := hb.cutAt
  have hlength : above.length + (below.length + 1) = 1 := by
    rw [hcut.lines] at hline
    simpa using hline
  have habove : above = [] := List.length_eq_zero_iff.mp (by omega)
  have hbelow : below = [] := List.length_eq_zero_iff.mp (by omega)
  unfold TwoDeletionsEmpty
  rw [hnone]
  show OneDeletion (textBefore b.lines b.cursor) ∧ OneDeletion (textAfter b.lines b.cursor)
  rw [hcut.lines, hcut.cursor, textBefore_split, textAfter_split, oneDeletion_concat_iff, oneDeletion_cons_iff]
  exact ⟨.inl habove, .inl hbelow⟩

end TextBox
end DeployBoard
