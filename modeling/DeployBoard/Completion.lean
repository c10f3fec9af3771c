import DeployBoard.Overflow
import DeployBoard.Text.Blank
import DeployBoard.Text.Lowercase
import DeployBoard.Text.Occurrence

/-!
# `Completion` — suggestions for what is being typed

While something is typed, a popup lists the candidates that contain it. One of them is highlighted; the highlight
stays on the same text while the list changes below it. Where the steps of the highlight are computed in machine words
(`next?`, `prev?`), they might leave their word.
-/

namespace DeployBoard

open Text

/-- At most so many suggestions are shown. -/
def maxSuggestions : Nat := 8

/-- **The suggestions for `input`**: the first `limit` candidates that contain it, trimmed and without regard to case,
    and that are not excluded. -/
def suggest (candidates : List String) (input : String) (exclude : List String) (limit : Nat) :
    List String :=
  let needle := lowercase (trim input)
  ((candidates.filter fun c => !exclude.any (equalIgnoringAsciiCase · c)).filter fun c =>
    needle == "" || occursIn needle (lowercase c)).take limit

/-- **The state of the popup.** -/
structure Completion where
  items : List String := []
  selected : Nat := 0
  visible : Bool := false
  deriving DecidableEq, Repr, Inhabited

namespace Completion

/-- The popup without suggestions. -/
def reset (_ : Completion) : Completion := {}

/-- The highlighted suggestion, if the popup is shown. -/
def current? (c : Completion) : Option String := if c.visible then c.items[c.selected]? else none

/-- **New input**: the suggestions are found again and the highlight stays on its text, if that is still suggested.
    Blank input closes the popup. -/
def update (c : Completion) (candidates : List String) (input : String) (exclude : List String) : Completion :=
  if isBlankText input then c.reset
  else
    let items := suggest candidates input exclude maxSuggestions
    { items
      selected := (c.current?.bind fun text => items.findIdx? (· == text)).getD 0
      visible := !items.isEmpty }

/-- Moves the highlight down, from the last suggestion to the first. -/
def next (c : Completion) : Completion :=
  if c.items = [] then c else { c with selected := (c.selected + 1) % c.items.length }

/-- Moves the highlight up, from the first suggestion to the last. -/
def prev (c : Completion) : Completion :=
  if c.items = [] then c
  else { c with selected := (c.selected + c.items.length - 1) % c.items.length }

/-- A step down whose arithmetic is done in machine words. -/
def next? (c : Completion) : Except Overflow Completion :=
  if c.items = [] then .ok c
  else do
    let sum ← addUnsigned64 c.selected 1
    return { c with selected := sum % c.items.length }

/-- A step up whose arithmetic is done in machine words. -/
def prev? (c : Completion) : Except Overflow Completion :=
  if c.items = [] then .ok c
  else do
    let sum ← addUnsigned64 c.selected c.items.length
    let place ← subUnsigned sum 1
    return { c with selected := place % c.items.length }

@[simp] theorem reset_eq (c : Completion) : c.reset = {} := rfl

@[simp] theorem next_items (c : Completion) : c.next.items = c.items := by
  unfold next; split <;> rfl

@[simp] theorem prev_items (c : Completion) : c.prev.items = c.items := by
  unfold prev; split <;> rfl

@[simp] theorem next_visible (c : Completion) : c.next.visible = c.visible := by
  unfold next; split <;> rfl

@[simp] theorem prev_visible (c : Completion) : c.prev.visible = c.visible := by
  unfold prev; split <;> rfl

theorem update_blank {c : Completion} {candidates exclude : List String} {input : String}
    (h : isBlankText input = true) : c.update candidates input exclude = {} := by
  simp [update, h]

theorem update_items {c : Completion} {candidates exclude : List String} {input : String}
    (h : isBlankText input = false) :
    (c.update candidates input exclude).items = suggest candidates input exclude maxSuggestions := by
  simp [update, h]

/-- After an update the popup is shown exactly when there is a suggestion. -/
theorem update_visible (c : Completion) (candidates exclude : List String) (input : String) :
    (c.update candidates input exclude).visible = !(c.update candidates input exclude).items.isEmpty := by
  unfold update
  split <;> simp

end Completion

end DeployBoard
