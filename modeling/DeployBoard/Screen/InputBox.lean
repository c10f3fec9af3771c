import DeployBoard.Screen.Text
import DeployBoard.TextBox.Edit

/-!
# `Screen.InputBox` — a text box on a canvas

A text box shows a part of its text that holds the cursor, and scrolls only as far as it has to (`scrolled`). The
character under the cursor is reversed, as is a blank when the cursor is at the end of a line; selected text has its
own ground, and so has the end of a line whose break is selected. A tab is shown as blanks up to the next
multiple of four columns.
-/

namespace DeployBoard

open TextBox Screen

namespace Screen

/-- How the cursor is shown. -/
def cursorStyle : Style := { reversed := true }

/-- How selected text is shown. -/
def selectedStyle : Style := { ground := some .lightBlue }

/-- The distance of tab stops. -/
def tabWidth : Nat := 4

/-- **The least scrolling**: the first position shown, so that `cursor` is one of `room` positions shown, when `first`
    was the first before. -/
def scrolled (first cursor room : Nat) : Nat :=
  if cursor < first then cursor else if first + room ≤ cursor then cursor + 1 - room else first

/-- The selected columns of a row, and whether the line break after it is selected too. -/
def selectedColumns (selection : Option (Place × Place)) (row : Nat) (line : Line) : (Nat × Nat) × Bool :=
  match selection with
  | none => ((0, 0), false)
  | some (first, last) =>
    if row < first.row ∨ last.row < row then ((0, 0), false)
    else
      let start := if row = first.row then first.column else 0
      if row = last.row then ((start, last.column), false) else ((start, line.length), true)

/-- The style of a column. -/
def columnStyle (selected : Nat × Nat) (cursor : Option Nat) (column : Nat) : Style :=
  if cursor = some column then cursorStyle
  else if selected.1 ≤ column ∧ column < selected.2 then selectedStyle
  else {}

/-- The characters of a line from a column on, with their styles; a tab becomes blanks. `width` is the width of what
    precedes them. -/
def styledChars (style : Nat → Style) (column width : Nat) : Line → List (Char × Style)
  | [] => []
  | c :: rest =>
    if c = '\t' then
      let blanks := tabWidth - width % tabWidth
      List.replicate blanks (' ', style column) ++ styledChars style (column + 1) (width + blanks) rest
    else (c, style column) :: styledChars style (column + 1) (width + Text.charWidth c) rest

/-- Groups neighbours of one style into spans. -/
def spansOf : List (Char × Style) → List Span
  | [] => []
  | (c, s) :: rest =>
    match spansOf rest with
    | [] => [⟨[c], s⟩]
    | span :: spans => if span.style = s then ⟨c :: span.text, s⟩ :: spans else ⟨[c], s⟩ :: span :: spans

/-- **A line of a text box** as it is shown. -/
def lineSpans (b : TextBox) (row : Nat) : List Span :=
  let line := lineAt b.lines row
  let cursor := if row = b.cursor.row then some b.cursor.column else none
  let (selected, breakSelected) := selectedColumns b.selection? row line
  let atEnd : List Span :=
    if cursor.any (line.length ≤ ·) then [⟨[' '], cursorStyle⟩]
    else if breakSelected then [⟨[' '], selectedStyle⟩]
    else []
  spansOf (styledChars (columnStyle selected cursor) 0 0 line) ++ atEnd

end Screen

/-- The box after it was shown in an area: its view has moved so that the cursor is in it. -/
def TextBox.seenIn (b : TextBox) (a : Area) : TextBox :=
  { b with
    viewport :=
      { row := scrolled b.viewport.row b.cursor.row a.height
        column := scrolled b.viewport.column b.cursor.column a.width
        width := a.width
        height := a.height } }

/-- **Draws a text box** that has been seen in the area inside the border of `a`. -/
def Screen.Canvas.drawInputBox (c : Canvas) (a : Area) (title : String) (style : Style) (b : TextBox) : Canvas :=
  let rows := (List.range (min a.inner.height (b.lines.length - b.viewport.row))).map (b.viewport.row + ·)
  if a.inner.isEmpty then c.drawBorder a title
  else (c.drawBorder a title).drawParagraph a.inner style (rows.map (lineSpans b)) b.viewport.column

end DeployBoard
