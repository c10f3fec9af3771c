/-!
# `TextBox.Lines` — a text as lines, and places in it

A text being edited is a list of lines. A place is a line and a column, counted in characters; it stands before
the character of that column. A piece of text is also a list of lines: one line goes into the line of its
place, more break it (`insertAt`), and what lies between two places is taken out again (`removeBetween`).
-/

namespace DeployBoard.TextBox

/-- A line of characters. -/
abbrev Line := List Char

/-- **A place in a text.** -/
structure Place where
  row : Nat := 0
  column : Nat := 0
  deriving DecidableEq, Repr, Inhabited

/-- One place is before another. -/
def Place.before (a b : Place) : Bool := a.row < b.row || (a.row = b.row && a.column < b.column)

/-- The line of a row; there is an empty one below the last. -/
def lineAt (lines : List Line) (row : Nat) : Line := lines.getD row []

/-- The end of a row. -/
def rowEnd (lines : List Line) (row : Nat) : Place := ⟨row, (lineAt lines row).length⟩

/-! ## Pieces of text -/

/-- A piece of text followed by `after`. -/
def pieceThen (after : Line) : List Line → List Line
  | [] => [after]
  | [last] => [last ++ after]
  | line :: rest => line :: pieceThen after rest

/-- A piece of text between `before` and `after`. -/
def pieceBetween (before after : Line) (piece : List Line) : List Line :=
  match pieceThen after piece with
  | [] => [before]
  | first :: rest => (before ++ first) :: rest

/-- Where a piece of text ends that begins at a place. -/
def pieceEnd (start : Place) : List Line → Place
  | [] => start
  | [line] => ⟨start.row, start.column + line.length⟩
  | _ :: rest => ⟨start.row + rest.length, (rest.getLastD []).length⟩

/-- **Puts a piece of text in at a place.** -/
def insertAt (lines : List Line) (place : Place) (piece : List Line) : List Line :=
  let line := lineAt lines place.row
  lines.take place.row ++ pieceBetween (line.take place.column) (line.drop place.column) piece ++
    lines.drop (place.row + 1)

/-- **Takes out what lies between two places.** -/
def removeBetween (lines : List Line) (first last : Place) : List Line :=
  lines.take first.row ++
    [(lineAt lines first.row).take first.column ++ (lineAt lines last.row).drop last.column] ++
    lines.drop (last.row + 1)

/-- What lies between two places. -/
def textBetween (lines : List Line) (first last : Place) : List Line :=
  if first.row = last.row then [((lineAt lines first.row).take last.column).drop first.column]
  else
    (lineAt lines first.row).drop first.column ::
      ((lines.take last.row).drop (first.row + 1) ++ [(lineAt lines last.row).take last.column])

end DeployBoard.TextBox
