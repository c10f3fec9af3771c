import DeployBoard.TextBox.Edit

/-!
# `TextBox.Motion` — where the cursor can go

A motion gives the place that the cursor goes to, or nothing when there is no such place; then nothing at all changes.
With the shift key a motion selects, and without it gives the selection up.
-/

namespace DeployBoard

namespace TextBox

/-- **A way to move the cursor.** -/
inductive Motion where
  | forward | back | up | down
  | head | end | top | bottom
  | wordForward | wordBack
  | paragraphForward | paragraphBack
  | intoView
  deriving DecidableEq, Repr

/-- The place in a row that is nearest to a column. -/
def fit (lines : List Line) (row column : Nat) : Place := ⟨row, min column (lineAt lines row).length⟩

/-- The row at which the next paragraph begins: the first of `lines` that is not empty and follows an empty one. -/
def paragraphStartFrom (row : Nat) (afterEmpty : Bool) : List Line → Option Nat
  | [] => none
  | line :: rest =>
    if !line.isEmpty && afterEmpty then some row else paragraphStartFrom (row + 1) line.isEmpty rest

/-- The row at which a paragraph begins, going back over `lines` from the row below them. -/
def paragraphBackFrom (row : Nat) (beforeEmpty : Bool) : List Line → Option Nat
  | [] => none
  | line :: rest =>
    if line.isEmpty && !beforeEmpty then some row else paragraphBackFrom (row - 1) line.isEmpty rest

/-- `n` brought between two bounds; the lower one counts when they cross. -/
def clampTo (low high n : Nat) : Nat := max low (min n (max low high))

/-- **Where a motion leads.** -/
def Motion.target? (m : Motion) (b : TextBox) : Option Place :=
  let ⟨row, column⟩ := b.cursor
  let last := b.lines.length - 1
  match m with
  | .forward =>
    if column < b.line.length then some ⟨row, column + 1⟩
    else if row < last then some ⟨row + 1, 0⟩
    else none
  | .back =>
    if 0 < column then some ⟨row, column - 1⟩
    else if 0 < row then some (rowEnd b.lines (row - 1))
    else none
  | .up => if 0 < row then some (fit b.lines (row - 1) column) else none
  | .down => if row < last then some (fit b.lines (row + 1) column) else none
  | .head => some ⟨row, 0⟩
  | .end => some (rowEnd b.lines row)
  | .top => some (fit b.lines 0 column)
  | .bottom => some (fit b.lines last column)
  | .wordForward =>
    match nextWordStart? b.line column with
    | some column => some ⟨row, column⟩
    | none => some (if row < last then ⟨row + 1, 0⟩ else rowEnd b.lines row)
  | .wordBack =>
    match lastWordStart? b.line column with
    | some column => some ⟨row, column⟩
    | none => some (if 0 < row then rowEnd b.lines (row - 1) else ⟨row, 0⟩)
  | .paragraphForward =>
    let next := paragraphStartFrom (row + 1) b.line.isEmpty (b.lines.drop (row + 1))
    some (fit b.lines (next.getD last) column)
  | .paragraphBack =>
    if row = 0 then none
    else
      let above := (b.lines.take (row - 1)).reverse
      let next := paragraphBackFrom (row - 1) (lineAt b.lines (row - 1)).isEmpty above
      some (fit b.lines (next.getD 0) column)
  | .intoView =>
    let v := b.viewport
    let row := min (clampTo v.row (v.row + v.height - 1) row) last
    some (fit b.lines row (clampTo v.column (v.column + v.width - 1) column))

/-- **Moves the cursor**, selecting or not. -/
def move (b : TextBox) (m : Motion) (selecting : Bool) : TextBox :=
  match m.target? b with
  | none => b
  | some place => { b with cursor := place, mark := if selecting then b.mark.or (some b.cursor) else none }

/-- Moves the view down by its height, and the cursor with it. -/
def pageDown (b : TextBox) (selecting : Bool) : TextBox :=
  let v := b.viewport
  { b with viewport := { v with row := v.row + v.height } }.move .intoView selecting

/-- Moves the view up by its height, and the cursor with it. -/
def pageUp (b : TextBox) (selecting : Bool) : TextBox :=
  let v := b.viewport
  { b with viewport := { v with row := v.row - v.height } }.move .intoView selecting

end TextBox

end DeployBoard
