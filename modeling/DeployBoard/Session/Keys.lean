import DeployBoard.Session.Basic

/-!
# `Session.Keys` — what the keys do in a session

While searching, keys move through the list, step through tags and submit commands, and all others go to the search
box. While a tag picker is open, keys move through its suggestions or choose one, and all others go to its box.
-/

namespace DeployBoard

/-- The keys that end a session. -/
def KeyPress.quits (k : KeyPress) : Bool := k.ctrl && (k.key = .char 'c' || k.key = .char 'q')

/-- So many rows are a page. -/
def pageRows : Int := 10

namespace Session

/-! ## While searching -/

/-- Empties the search, or closes the popup if that is open. -/
def escapeSearch (s : Session) : Session :=
  if s.completion.visible then { s with completion := s.completion.reset }
  else { s with searchBox := s.searchBox.clearLine, dashboard := s.dashboard.clearQuery }

/-- Empties the search box after a term was taken from it. -/
def takeTyped (s : Session) (dashboard : Dashboard) : Session :=
  { s with
    dashboard := dashboard.setFreeText ""
    searchBox := s.searchBox.clearLine
    completion := s.completion.reset }

/-- **Takes the highlighted suggestion as a term.** Without one, a typed term that was chosen before is given up. -/
def acceptSuggestion (s : Session) : Session :=
  match s.completion.current? with
  | some term => s.takeTyped (s.dashboard.addTerm term).1
  | none =>
    let (dashboard, removed) := s.dashboard.removeTerm s.searchBox.text
    if removed then s.takeTyped dashboard else s

/-- **Opens the tag picker** of the repository under the cursor. -/
def openPicker (s : Session) : Session :=
  match s.dashboard.selectedName? with
  | none => s
  | some repo =>
    let input := ((s.dashboard.pickers.get? repo).map (·.input)).getD ""
    { s with tagBox := s.tagBox.clearLine.insertText input, mode := .tag repo }.refreshCompletion

/-- A key for the search box. -/
def typeSearch (s : Session) (k : KeyPress) : Session :=
  let searchBox := s.searchBox.press k
  { s with searchBox, dashboard := s.dashboard.setFreeText searchBox.text }.refreshCompletion

/-- What a letter with the control key does while searching, if it does not go to the box. -/
def searchShortcut? (s : Session) : Char → Option Session
  | 'a' => some (s.submitSome s.dashboard.toggleCommand?)
  | 'r' => some (s.submitSome s.dashboard.resetCommand?)
  | 't' => some s.openPicker
  | 'n' => some { s with completion := s.completion.next }
  | 'p' => some { s with completion := s.completion.prev }
  | _ => none

/-- **A key while searching.** -/
def pressSearch (s : Session) (k : KeyPress) : Session :=
  match k.key with
  | .char c => if k.ctrl then (s.searchShortcut? c).getD (s.typeSearch k) else s.typeSearch k
  | .function 5 => s.refresh
  | .enter => s.submitSome s.dashboard.deployCommand?
  | .tab => s.acceptSuggestion
  | .escape => s.escapeSearch
  | .up => { s with dashboard := s.dashboard.moveCursor (-1) }
  | .down => { s with dashboard := s.dashboard.moveCursor 1 }
  | .pageUp => { s with dashboard := s.dashboard.moveCursor (-pageRows) }
  | .pageDown => { s with dashboard := s.dashboard.moveCursor pageRows }
  | .left => { s with dashboard := s.dashboard.cycleTag (-1) }
  | .right => { s with dashboard := s.dashboard.cycleTag 1 }
  | .backspace =>
    if s.searchBox.text = "" then { s with dashboard := s.dashboard.popTerm.1 } else s.typeSearch k
  | _ => s.typeSearch k

/-! ## While a tag picker is open -/

/-- Closes the tag picker. -/
def closePicker (s : Session) : Session := { s with mode := .search, completion := s.completion.reset }

/-- **Chooses a tag**: the highlighted suggestion, or else the typed text if that is a tag of the repository. -/
def choosePicked (s : Session) (repo : String) : Session :=
  let typed := s.tagBox.text
  let known := (s.pickerTags repo).contains typed
  match s.completion.current?.or (if known then some typed else none) with
  | some tag => { s with dashboard := s.dashboard.selectTag repo tag }.closePicker
  | none => s.closePicker

/-- **A key for the picker's box.** An emptied box shows the current version again. -/
def typePicker (s : Session) (repo : String) (k : KeyPress) : Session :=
  let tagBox := s.tagBox.press k
  let dashboard := s.dashboard.setTagInput repo tagBox.text
  let shown :=
    if tagBox.text = "" then tagBox.insertText (((dashboard.pickers.get? repo).map (·.input)).getD "") else tagBox
  { s with tagBox := shown, dashboard }.refreshCompletion

/-- **A key while the tag picker of `repo` is open.** -/
def pressPicker (s : Session) (repo : String) (k : KeyPress) : Session :=
  match k.key with
  | .escape => s.closePicker
  | .up => { s with completion := s.completion.prev }
  | .down => { s with completion := s.completion.next }
  | .enter | .tab => s.choosePicked repo
  | _ => s.typePicker repo k

/-- **A key.** A key that ends the session changes nothing in it. -/
def press (s : Session) (k : KeyPress) : Session :=
  if k.quits then s
  else
    match s.mode with
    | .search => s.pressSearch k
    | .tag repo => s.pressPicker repo k

end Session

end DeployBoard
