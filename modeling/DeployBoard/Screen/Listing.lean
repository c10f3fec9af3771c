import DeployBoard.Screen.Text

/-!
# `Screen.Listing` — lists of items on a canvas

A list shows as many whole items as fit. It begins with the first, or, when the selected item would not be among those, so
late that the selected item is the last that fits.
-/

namespace DeployBoard.Screen

/-- **An item of a list**: its lines, over one style. -/
structure Item where
  lines : List (List Span)
  style : Style := {}
  deriving DecidableEq, Repr

/-- How many of the first items fit, by their heights. -/
def fittingCount (room : Nat) : List Nat → Nat
  | [] => 0
  | h :: rest => if h ≤ room then fittingCount (room - h) rest + 1 else 0

/-- **The first item that is shown and the first after it that is not.** -/
def window (room : Nat) (heights : List Nat) (selected : Option Nat) : Nat × Nat :=
  let fromTop := fittingCount room heights
  match selected with
  | none => (0, fromTop)
  | some i =>
    let i := min i (heights.length - 1)
    if i < fromTop then (0, fromTop)
    else (i + 1 - fittingCount room (heights.take (i + 1)).reverse, i + 1)

namespace Canvas

/-- Draws lines of labels below each other. -/
def drawLabels (c : Canvas) (a : Area) : List (List Span) → Canvas
  | [] => c
  | line :: rest => (c.drawLabel (a.row 0) line).drawLabels { a with y := a.y + 1 } rest

/-- Draws items below each other, of which the first is the one numbered `i`. -/
def drawItems (c : Canvas) (a : Area) (highlight : Style) (selected : Option Nat) (i : Nat) : List Item → Canvas
  | [] => c
  | item :: rest =>
    let rows : Area := { a with height := item.lines.length }
    let c := (c.paint rows item.style).drawLabels rows item.lines
    let c := if selected = some i then c.paint rows highlight else c
    c.drawItems { a with y := a.y + item.lines.length } highlight selected (i + 1) rest

/-- **Draws a list** into an area; the highlight is laid over the selected item. -/
def drawList (c : Canvas) (a : Area) (highlight : Style) (selected : Option Nat) (items : List Item) : Canvas :=
  if a.isEmpty then c
  else
    let (first, last) := window a.height (items.map (·.lines.length)) selected
    c.drawItems a highlight selected first ((items.take last).drop first)

end Canvas

end DeployBoard.Screen
