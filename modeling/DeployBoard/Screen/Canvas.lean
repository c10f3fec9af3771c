import DeployBoard.Screen.Style
import DeployBoard.Text.Width

/-!
# `Screen.Canvas` — a grid of cells to draw on

A canvas is a grid of cells, each with a symbol and a style. A symbol is a cluster of characters and may be two columns
wide; then it hides the cell to its right. Drawing outside the grid does nothing.

A finished canvas is read as rows of text (`rowText`) and as runs of one style (`styleRuns`).
-/

namespace DeployBoard

namespace Screen

/-- **A rectangle of cells.** -/
structure Area where
  x : Nat
  y : Nat
  width : Nat
  height : Nat
  deriving DecidableEq, Repr, Inhabited

namespace Area

/-- The column right of the area. -/
def right (a : Area) : Nat := a.x + a.width

/-- The row below the area. -/
def bottom (a : Area) : Nat := a.y + a.height

/-- There is no cell in the area. -/
def isEmpty (a : Area) : Bool := a.width = 0 || a.height = 0

/-- The area without a border of one cell. -/
def inner (a : Area) : Area :=
  { x := min (a.x + 1) a.right, y := min (a.y + 1) a.bottom, width := a.width - 2, height := a.height - 2 }

/-- The rows of the area, as areas. -/
def row (a : Area) (i : Nat) : Area := { a with y := a.y + i, height := 1 }

end Area

/-- **A cell.** -/
structure Cell where
  symbol : List Char := [' ']
  style : Style := {}
  deriving DecidableEq, Repr, Inhabited

/-- **A grid of cells**, row by row. -/
structure Canvas where
  width : Nat
  height : Nat
  cells : Array Cell
  deriving Repr, Inhabited

namespace Canvas

/-- The empty canvas. -/
def blank (width height : Nat) : Canvas := ⟨width, height, Array.replicate (width * height) {}⟩

/-- The cell in a column and a row. -/
def cell (c : Canvas) (x y : Nat) : Cell := if x < c.width then c.cells.getD (y * c.width + x) {} else {}

/-- Changes a cell. -/
def change (c : Canvas) (x y : Nat) (f : Cell → Cell) : Canvas :=
  if x < c.width then { c with cells := c.cells.modify (y * c.width + x) f } else c

/-- Changes the cells of an area. -/
def changeArea (c : Canvas) (a : Area) (f : Cell → Cell) : Canvas :=
  (List.range a.height).foldl
    (fun c i => (List.range a.width).foldl (fun c j => c.change (a.x + j) (a.y + i) f) c) c

/-- Lays a style over an area. -/
def paint (c : Canvas) (a : Area) (style : Style) : Canvas :=
  c.changeArea a fun cell => { cell with style := style.patching cell.style }

/-- Empties an area. -/
def wipe (c : Canvas) (a : Area) : Canvas := c.changeArea a fun _ => {}

/-- Puts a symbol into a cell. -/
def put (c : Canvas) (x y : Nat) (symbol : List Char) (style : Style) : Canvas :=
  c.change x y fun cell => { symbol, style := style.patching cell.style }

/-- Adds characters to the symbol of a cell. -/
def attach (c : Canvas) (x y : Nat) (symbol : List Char) (style : Style) : Canvas :=
  c.change x y fun cell => { symbol := cell.symbol ++ symbol, style := style.patching cell.style }

/-! ## Reading a canvas -/

/-- The cells of a row. -/
def rowCells (c : Canvas) (y : Nat) : List Cell := (List.range c.width).map fun x => c.cell x y

/-- The symbols of cells without the next `hidden` ones and those that wide symbols hide. -/
def visible (hidden : Nat) : List Cell → List Char
  | [] => []
  | cell :: rest =>
    (if hidden = 0 then cell.symbol else []) ++ visible (max hidden (Text.charsWidth cell.symbol) - 1) rest

/-- **The text of a row.** -/
def rowText (c : Canvas) (y : Nat) : String := String.ofList (visible 0 (c.rowCells y))

/-- A run of cells of one style. -/
structure Run where
  first : Nat
  last : Nat
  style : Style
  deriving DecidableEq, Repr

/-- The maximal runs of one style, the first of which has begun as `run`. -/
def runsFrom (run : Run) : List Style → List Run
  | [] => [run]
  | s :: rest =>
    if s = run.style then runsFrom { run with last := run.last + 1 } rest
    else run :: runsFrom ⟨run.last, run.last + 1, s⟩ rest

/-- **The maximal runs of one style in a row**, but for cells without a style. -/
def styleRuns (c : Canvas) (y : Nat) : List Run :=
  (runsFrom ⟨0, 0, {}⟩ ((c.rowCells y).map (·.style))).filter (·.style ≠ {})

end Canvas

end Screen

end DeployBoard
