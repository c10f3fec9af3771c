import DeployBoard.Screen.Style

/-!
# `Theme` — the board's two sets of styles
-/

namespace DeployBoard

/-- **The styles of the parts of the screen.** -/
structure Theme where
  name : String
  header : Style
  footer : Style
  repoName : Style
  subtitle : Style
  selectedRow : Style
  chip : Style
  input : Style
  error : Style
  pending : Style
  completion : Style
  completionSelected : Style
  deriving Repr

namespace Theme

/-- For a dark ground. -/
def dark : Theme :=
  { name := "dark"
    header := { text := some .cyan }
    footer := { text := some .cyan }
    repoName := { text := some .white, bold := true }
    subtitle := { text := some .gray }
    selectedRow := { ground := some .darkGray }
    chip := { text := some .black, ground := some .cyan }
    input := { text := some .white }
    error := { text := some .red }
    pending := { text := some .yellow }
    completion := { text := some .gray }
    completionSelected := { text := some .white, ground := some .darkGray } }

/-- For a light ground. -/
def light : Theme :=
  { name := "light"
    header := { text := some .blue }
    footer := { text := some .blue }
    repoName := { text := some .black, bold := true }
    subtitle := { text := some .darkGray }
    selectedRow := { ground := some .gray }
    chip := { text := some .white, ground := some .blue }
    input := { text := some .black }
    error := { text := some .red }
    pending := { text := some .magenta }
    completion := { text := some .darkGray }
    completionSelected := { text := some .black, ground := some .gray } }

/-- The theme of a name; a name that is not known means the dark theme. -/
def byName (name : String) : Theme := if name = "light" then light else dark

end Theme

end DeployBoard
