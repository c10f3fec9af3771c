/-!
# `Screen.Style` — colours and emphasis

A style says what to change about a cell: it may set the colour of the text, the colour of the ground, and add bold or
reversed. What it does not set stays as it is (`Style.patching`).
-/

namespace DeployBoard

/-- The colours that the board uses; `reset` is the terminal's own. -/
inductive Color where
  | reset | black | red | yellow | blue | magenta | cyan | gray | darkGray | lightBlue | white
  deriving DecidableEq, Repr, Inhabited

/-- The name of a colour. -/
def Color.name : Color → String
  | .reset => "Reset"
  | .black => "Black"
  | .red => "Red"
  | .yellow => "Yellow"
  | .blue => "Blue"
  | .magenta => "Magenta"
  | .cyan => "Cyan"
  | .gray => "Gray"
  | .darkGray => "DarkGray"
  | .lightBlue => "LightBlue"
  | .white => "White"

/-- **What to change about a cell.** -/
structure Style where
  text : Option Color := none
  ground : Option Color := none
  bold : Bool := false
  reversed : Bool := false
  deriving DecidableEq, Repr, Inhabited

namespace Style

/-- The style that changes nothing. -/
def plain : Style := {}

/-- **`s` laid over `base`**: what `s` sets wins, and emphasis adds up. -/
def patching (s base : Style) : Style :=
  { text := s.text.or base.text
    ground := s.ground.or base.ground
    bold := s.bold || base.bold
    reversed := s.reversed || base.reversed }

/-- The style as text: both colours and the emphasis. -/
def describe (s : Style) : String :=
  let emphasis := (if s.bold then ["BOLD"] else []) ++ (if s.reversed then ["REVERSED"] else [])
  (s.text.getD .reset).name ++ "," ++ (s.ground.getD .reset).name ++ "," ++
    (if emphasis = [] then "-" else "|".intercalate emphasis)

end Style

end DeployBoard
