import DeployBoard.Dashboard.Plan
import DeployBoard.Overflow
import DeployBoard.Screen.InputBox
import DeployBoard.Screen.Listing
import DeployBoard.Session.Basic

/-!
# `Session.View` — a session on a canvas

From top to bottom: the header, the status with the chosen terms, the list of repositories, the footer, and the box
that is typed into, with its suggestions in a popup above it.
-/

namespace DeployBoard

open Screen

/-! ## Layout -/

/-- **The parts of the screen.** -/
structure Layout where
  header : Area
  status : Area
  list : Area
  footer : Area
  input : Area
  deriving DecidableEq, Repr

/-- The layout of a screen: the list takes what the other parts leave. -/
def Layout.of (width height : Nat) : Layout :=
  let rows (y n : Nat) : Area := { x := 0, y, width, height := n }
  { header := rows 0 1, status := rows 1 1, list := rows 2 (height - 6), footer := rows (height - 4) 1,
    input := rows (height - 3) 3 }

/-- **The popup above the input area**: as wide as its longest item with four columns more, and as high as its items with
    its border, but inside the screen. The sums are computed in words of 16 bits, as is the length of the longest item. -/
def popupArea (items : List String) (input : Area) : Except Overflow Area := do
  let longest := ((items.map (·.length)).max?.getD 10) % 0x10000
  let width ← addUnsigned16 longest 4
  let height ← addUnsigned16 (items.length % 0x10000) 2
  let height := min height input.y
  return { x := input.x + 1, y := input.y - height, width := min width (input.width - 1), height }

/-! ## The list -/

/-- The three lines of a repository. -/
def RowPlan.item (theme : Theme) (row : RowPlan) : Item :=
  { lines :=
      [[Span.of row.name theme.repoName, Span.of "  " {}, Span.of row.subtitle theme.subtitle] ++
         (if row.pending then [Span.of "  (sending…)" theme.pending] else []),
       labelOf ("  " ++ row.tagLine),
       [Span.of "  " {}, Span.of row.action {}] ++
         (match row.error with
          | some message => [Span.of "  " {}, Span.of message theme.error]
          | none => [])] }

/-- A suggestion in the popup. -/
def suggestionItem (style : Style) (text : String) : Item :=
  { lines := (blockLines text).map fun line => [⟨line, {}⟩], style }

namespace Session

/-- The title of the box that is typed into. -/
def inputTitle (s : Session) : String :=
  match s.mode with
  | .search => "Search"
  | .tag repo => "Tag for " ++ repo ++ " (Enter select, Esc back)"

/-- The box that is typed into. -/
def activeBox (s : Session) : TextBox :=
  match s.mode with
  | .search => s.searchBox
  | .tag _ => s.tagBox

/-- The session with a change of the box that is typed into. -/
def withActiveBox (s : Session) (b : TextBox) : Session :=
  match s.mode with
  | .search => { s with searchBox := b }
  | .tag _ => { s with tagBox := b }

/-- The plan of the session's screen. -/
def plan (s : Session) (columns : Nat) : Plan := s.dashboard.plan s.title s.url columns

/-- Draws the status and the chosen terms. -/
def drawStatus (s : Session) (plan : Plan) (a : Area) (c : Canvas) : Canvas :=
  let style :=
    match s.dashboard.pollStatus with
    | .failed _ => s.theme.error
    | _ => s.theme.subtitle
  let chips := plan.chips.flatMap fun chip => [Span.of " " {}, Span.of (" " ++ chip ++ " ") s.theme.chip]
  c.drawParagraph a {} [Span.of plan.status style :: chips] 0

/-- Draws the list, or what stands in its place. -/
def drawBody (s : Session) (plan : Plan) (a : Area) (c : Canvas) : Canvas :=
  let title := "Repositories"
  match plan.body with
  | .loading => (c.drawBorder a title).drawText a.inner {} "Loading..."
  | .empty message => ((c.paint a s.theme.subtitle).drawBorder a title).drawText a.inner {} message
  | .rows rows =>
    (c.drawBorder a title).drawList a.inner s.theme.selectedRow (some s.dashboard.cursor)
      (rows.map (RowPlan.item s.theme))

/-- Draws the popup with the suggestions. -/
def drawPopup (s : Session) (a : Area) (c : Canvas) : Canvas :=
  let items := s.completion.items.zipIdx.map fun (text, i) =>
    suggestionItem (if i = s.completion.selected then s.theme.completionSelected else s.theme.completion) text
  ((c.wipe a).drawBorder a "").drawList a.inner {} none items

/-- **Draws the session** on a canvas of a given size. The session remembers which part of its text box was seen. -/
def draw (s : Session) (width height : Nat) : Except Overflow (Canvas × Session) := do
  let layout := Layout.of width height
  let plan := s.plan width
  let box := s.activeBox.seenIn layout.input.inner
  let c := Canvas.blank width height
  let c := c.drawText layout.header s.theme.header plan.header
  let c := s.drawStatus plan layout.status c
  let c := s.drawBody plan layout.list c
  let c := c.drawText layout.footer s.theme.footer plan.footer
  let c := c.drawInputBox layout.input s.inputTitle s.theme.input box
  let c ←
    if s.completion.visible && !s.completion.items.isEmpty then do
      let a ← popupArea s.completion.items layout.input
      pure (s.drawPopup a c)
    else pure c
  return (c, s.withActiveBox box)

end Session

end DeployBoard
