import DeployBoard.Index.Record
import DeployBoard.Overflow

/-!
# `TagPicker` — choosing a repository's tag

Each repository has a picker: the tag that a deployment would use, and the text of its input. The picker is local: it
starts at the current version of the record and changes only when someone steps through the tags, chooses one or
empties the input.
-/

namespace DeployBoard

/-- **The state of one repository's tag picker.** -/
structure TagPicker where
  selected : String
  input : String
  deriving DecidableEq, Repr, Inhabited

namespace TagPicker

/-- A picker at the record's current version. -/
def ofRecord (record : Record) : TagPicker := ⟨record.pinnedTagValue, record.pinnedTagValue⟩

/-- Chooses a tag. -/
def select (_ : TagPicker) (tag : String) : TagPicker := ⟨tag, tag⟩

/-- Changes the text of the input; an emptied input goes back to the record's current version. -/
def setInput (picker : TagPicker) (text : String) (record : Record) : TagPicker :=
  if text = "" then ofRecord record else { picker with input := text }

/-- **Steps through `tags`**, wrapping at either end. From a tag that is not among them the step goes to the last tag
    when it is backwards and to the first otherwise. Without tags nothing changes. -/
def cycle (picker : TagPicker) (tags : List String) (delta : Int) : TagPicker :=
  if tags = [] then picker
  else
    let next : Int :=
      match tags.findIdx? (· == picker.selected) with
      | some i => ((i : Int) + delta) % (tags.length : Int)
      | none => if delta < 0 then (tags.length : Int) - 1 else 0
    match tags[next.toNat]? with
    | some tag => picker.select tag
    | none => picker

/-- A step whose arithmetic is done in machine words. -/
def cycle? (picker : TagPicker) (tags : List String) (delta : Int) : Except Overflow TagPicker :=
  match tags.findIdx? (· == picker.selected) with
  | some i => (addSigned64 i delta).map fun _ => picker.cycle tags delta
  | none => .ok (picker.cycle tags delta)

/-- The chosen tag is the version that runs already. -/
def isRedeploy (picker : TagPicker) (record : Record) : Bool := picker.selected = record.pinnedTagValue

/-- The text of the deploy button. -/
def actionLabel (picker : TagPicker) (record : Record) : String :=
  (if picker.isRedeploy record then "Redeploy " else "Deploy ") ++ picker.selected

@[simp] theorem select_selected (picker : TagPicker) (tag : String) : (picker.select tag).selected = tag := rfl

@[simp] theorem select_input (picker : TagPicker) (tag : String) : (picker.select tag).input = tag := rfl

theorem setInput_empty (picker : TagPicker) (record : Record) : picker.setInput "" record = ofRecord record := by
  simp [setInput]

/-- Typing does not choose. -/
theorem setInput_selected_of_ne {picker : TagPicker} {text : String} {record : Record} (h : text ≠ "") :
    (picker.setInput text record).selected = picker.selected := by
  simp [setInput, h]

end TagPicker

end DeployBoard
