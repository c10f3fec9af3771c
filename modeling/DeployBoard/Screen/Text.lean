import DeployBoard.Screen.Canvas
import DeployBoard.Text.Cluster
import DeployBoard.Text.Width

/-!
# `Screen.Text` — text on a canvas

A styled text is a list of spans. There are two ways to draw a line of spans:

* as a *label* (`drawLabel`), in titles and list items: spans take their place one after the other, and a mark
  without a column of its own joins the symbol before it;
* as a *paragraph* (`drawParagraph`): the line may start some columns into the text, and marks without a column are
  left out.

Either way a text ends before the first cluster that does not fit, and clusters with control characters are not drawn.
-/

namespace DeployBoard.Screen

open DeployBoard.Text

/-- **A text in one style.** -/
structure Span where
  text : List Char
  style : Style := {}
  deriving DecidableEq, Repr

/-- A span of a string. -/
def Span.of (text : String) (style : Style) : Span := ⟨text.toList, style⟩

/-- The clusters of a text that can be drawn. -/
def drawable (cs : List Char) : List (List Char) := (clusters cs).filter fun g => !g.any isControl

/-! ## Lines of a text -/

/-- A line without the carriage return at its end; the line is in reverse. -/
def closeLine (line : List Char) : List Char := (if line.head? = some '\r' then line.tail else line).reverse

/-- Cuts a text at its line feeds; `line` holds, in reverse, the line being read. No line follows the last line feed. -/
def textLinesFrom (line : List Char) : List Char → List (List Char)
  | [] => if line.isEmpty then [] else [line.reverse]
  | c :: cs => if c = '\n' then closeLine line :: textLinesFrom [] cs else textLinesFrom (c :: line) cs

/-- **The lines of a text.** -/
def textLines (s : String) : List (List Char) := textLinesFrom [] s.toList

/-- The lines that a text takes when it stands on its own: at least one. -/
def blockLines (s : String) : List (List Char) := if s.isEmpty then [[]] else textLines s

/-- A text on one line: its lines one after the other. -/
def labelOf (s : String) : List Span := (textLines s).map fun line => ⟨line, {}⟩

/-! ## Labels -/

namespace Canvas

/-- Draws clusters in the row `y` from the column `x` on; `left` is the first column of the span and `right` the
    end. -/
def drawClusters (style : Style) (left right y : Nat) (x : Nat) (first : Bool) (c : Canvas) :
    List (List Char) → Canvas
  | [] => c
  | g :: rest =>
    let columns := charsWidth g
    if right < x + columns then c
    else
      let c :=
        if first then c.put x y g style
        else if x = left then c.attach x y g style
        else if columns = 0 then c.attach (x - 1) y g style
        else c.put x y g style
      drawClusters style left right y (x + columns) false
        (c.wipe { x := x + 1, y, width := columns - 1, height := 1 }) rest

/-- **Draws a label** into the first row of an area. -/
def drawLabel (c : Canvas) (a : Area) : List Span → Canvas
  | [] => c
  | span :: rest =>
    if a.isEmpty then c
    else
      let columns := charsWidth span.text
      if columns = 0 then c.drawLabel a rest
      else
        (c.drawClusters span.style a.x a.right a.y a.x true (drawable span.text)).drawLabel
          { a with x := a.x + columns, width := a.width - columns } rest

/-! ## Paragraphs -/

/-- A cluster with its style. -/
abbrev Glyph := List Char × Style

/-- The clusters of a line of spans. -/
def glyphs (spans : List Span) : List Glyph :=
  spans.flatMap fun span => (drawable span.text).map fun g => (g, span.style)

/-- The clusters that a paragraph shows of a line, of which the first `skipped` columns are left of it and `used`
    columns are shown already. A cluster that is wider than the paragraph is left out. -/
def fitted (room skipped used : Nat) : List Glyph → List Glyph
  | [] => []
  | (g, style) :: rest =>
    let columns := charsWidth g
    if room < columns then fitted room skipped used rest
    else if room < used + columns then []
    else if 0 < skipped ∧ columns ≤ skipped then fitted room (skipped - columns) used rest
    else (g, style) :: fitted room 0 (used + columns) rest

/-- Draws clusters one after the other. -/
def drawGlyphs (c : Canvas) (x y : Nat) : List Glyph → Canvas
  | [] => c
  | (g, style) :: rest =>
    let columns := charsWidth g
    if columns = 0 then c.drawGlyphs x y rest else (c.put x y g style).drawGlyphs (x + columns) y rest

/-- Draws lines of spans below each other. -/
def drawLines (c : Canvas) (a : Area) (skipped : Nat) : List (List Span) → Canvas
  | [] => c
  | line :: rest =>
    if a.isEmpty then c
    else
      (c.drawGlyphs a.x a.y (fitted a.width skipped 0 (glyphs line))).drawLines
        { a with y := a.y + 1, height := a.height - 1 } skipped rest

/-- **Draws a paragraph**: its style on the whole area, and then its lines from the column `skipped` on. -/
def drawParagraph (c : Canvas) (a : Area) (style : Style) (lines : List (List Span)) (skipped : Nat) : Canvas :=
  (c.paint a style).drawLines a skipped lines

/-- Draws a plain text. -/
def drawText (c : Canvas) (a : Area) (style : Style) (text : String) : Canvas :=
  c.drawParagraph a style ((blockLines text).map fun line => [⟨line, {}⟩]) 0

/-! ## Borders -/

/-- **Draws a border** around an area, with a title in its top row. An area that is less than two columns wide
    or two rows high has the corners that are drawn last. -/
def drawBorder (c : Canvas) (a : Area) (title : String) : Canvas :=
  if a.isEmpty then c
  else
    let right := a.right - 1
    let bottom := a.bottom - 1
    let side (x : Nat) : Area := { x, y := a.y, width := 1, height := a.height }
    let edge (y : Nat) : Area := { x := a.x, y, width := a.width, height := 1 }
    let line (symbol : List Char) (cell : Cell) : Cell := { cell with symbol }
    let c := c.changeArea (side a.x) (line ['│'])
    let c := c.changeArea (edge a.y) (line ['─'])
    let c := c.changeArea (side right) (line ['│'])
    let c := c.changeArea (edge bottom) (line ['─'])
    let c := c.change right bottom (line ['┘'])
    let c := c.change right a.y (line ['┐'])
    let c := c.change a.x bottom (line ['└'])
    let c := c.change a.x a.y (line ['┌'])
    c.drawLabel { x := a.x + 1, y := a.y, width := a.width - 2, height := 1 } (labelOf title)

end Canvas

end DeployBoard.Screen
