import DeployBoard.ClientError
import DeployBoard.Command
import DeployBoard.Index.Filter
import DeployBoard.Query
import DeployBoard.TagPicker

/-!
# `Dashboard.State` — everything the dashboard knows

The dashboard holds the last index that the backend gave, with the expected effects of the commands under way; the
query, and the index narrowed to it; the repository under the cursor; a tag picker for each repository; and what is to be
said about polls and commands.

The displayed index is always found again from the whole index (`refilter`), so edits of the query never
compound. The cursor follows its repository by name: `anchor` remembers it while the list changes, and also while
nothing is listed.

A command takes effect at once (`beginCommand`). When it fails its effect is withdrawn, provided that the record is still
the one that the command left (`finishCommand`).
-/

namespace DeployBoard

/-- How the last poll went. -/
inductive PollStatus where
  | waiting
  | ok
  | failed (message : String)
  deriving DecidableEq, Repr, Inhabited

/-- **A command under way**, with the record before it and the record that it left. -/
structure PendingCommand where
  id : Nat
  command : Command
  previous : Record
  optimistic : Record
  deriving DecidableEq, Repr

/-- **The state of the dashboard.** `index` is all that is known of the repositories, and `display` what the query leaves of
    it; `updatedAt` is the time of the last successful poll as it is shown. -/
structure Dashboard where
  loading : Bool := true
  index : Index := ∅
  display : Index := ∅
  query : Query := {}
  cursor : Nat := 0
  anchor : Option String := none
  pickers : Catalog TagPicker := ∅
  pending : List PendingCommand := []
  nextId : Nat := 0
  pollStatus : PollStatus := .waiting
  updatedAt : Option String := none
  errors : Catalog String := ∅
  notice : Option String := none
  deriving Inhabited

/-- What a poll brings: an index, or the reason why there is none. -/
inductive PollEvent where
  | updated (index : Index)
  | failed (error : ClientError)
  deriving DecidableEq

/-- **The expected effect of an action on its repository's record.** -/
def Action.apply (action : Action) (record : Record) : Record :=
  match action with
  | .deploy tag => { record with pinnedTag := tag, pinnedTagValue := tag }
  | .setAutoDeploy enabled => { record with autoDeploy := enabled }
  | .reset => { record with pinnedTag := "", autoDeploy := true }

/-- No action changes what there is to choose from. -/
@[simp] theorem Action.apply_tags (action : Action) (record : Record) : (action.apply record).tags = record.tags := by
  cases action <;> rfl

namespace Dashboard

/-! ## The displayed index and the cursor -/

/-- The dashboard with `display` as the displayed index: the cursor goes to its repository, if that is listed, and
    otherwise stays inside the list and takes the repository there. -/
def withDisplay (s : Dashboard) (display : Index) : Dashboard :=
  match s.anchor.bind display.position? with
  | some position => { s with display, cursor := position }
  | none =>
    let cursor := if s.cursor ≥ display.size then display.size - 1 else s.cursor
    { s with display, cursor, anchor := display.names[cursor]?.or s.anchor }

/-- **Narrows the whole index to the query again.** -/
def refilter (s : Dashboard) : Dashboard := s.withDisplay (s.index.filterTerms s.query.terms)

/-- A new displayed index changes nothing besides itself, the cursor and its anchor. -/
theorem withDisplay_eq (s : Dashboard) (display : Index) :
    ∃ cursor anchor, s.withDisplay display = { s with display, cursor, anchor } := by
  unfold withDisplay
  split
  · exact ⟨_, s.anchor, rfl⟩
  · exact ⟨_, _, rfl⟩

theorem refilter_eq (s : Dashboard) :
    ∃ cursor anchor, s.refilter = { s with display := s.index.filterTerms s.query.terms, cursor, anchor } :=
  s.withDisplay_eq _

@[simp] theorem refilter_index (s : Dashboard) : s.refilter.index = s.index := by
  obtain ⟨_, _, h⟩ := s.refilter_eq; rw [h]

@[simp] theorem refilter_display (s : Dashboard) :
    s.refilter.display = s.index.filterTerms s.query.terms := by
  obtain ⟨_, _, h⟩ := s.refilter_eq; rw [h]

@[simp] theorem refilter_query (s : Dashboard) : s.refilter.query = s.query := by
  obtain ⟨_, _, h⟩ := s.refilter_eq; rw [h]

@[simp] theorem refilter_pending (s : Dashboard) : s.refilter.pending = s.pending := by
  obtain ⟨_, _, h⟩ := s.refilter_eq; rw [h]

@[simp] theorem refilter_nextId (s : Dashboard) : s.refilter.nextId = s.nextId := by
  obtain ⟨_, _, h⟩ := s.refilter_eq; rw [h]

@[simp] theorem refilter_pickers (s : Dashboard) : s.refilter.pickers = s.pickers := by
  obtain ⟨_, _, h⟩ := s.refilter_eq; rw [h]

@[simp] theorem refilter_errors (s : Dashboard) : s.refilter.errors = s.errors := by
  obtain ⟨_, _, h⟩ := s.refilter_eq; rw [h]

@[simp] theorem refilter_loading (s : Dashboard) : s.refilter.loading = s.loading := by
  obtain ⟨_, _, h⟩ := s.refilter_eq; rw [h]

/-- The repository under the cursor. -/
def selected? (s : Dashboard) : Option (String × Record) := s.display.entries[s.cursor]?

/-- Name of the repository under the cursor. -/
def selectedName? (s : Dashboard) : Option String := s.selected?.map (·.1)

/-- **Moves the cursor** by `delta` rows, as far as the list goes. -/
def moveCursor (s : Dashboard) (delta : Int) : Dashboard :=
  if s.display.isEmpty then { s with cursor := 0 }
  else
    let last : Int := s.display.size - 1
    let cursor := (max 0 (min ((s.cursor : Int) + delta) last)).toNat
    { s with cursor, anchor := s.display.names[cursor]? }

/-- A move whose arithmetic is done in machine words. -/
def moveCursor? (s : Dashboard) (delta : Int) : Except Overflow Dashboard :=
  if s.display.isEmpty then .ok (s.moveCursor delta)
  else (addSigned64 s.cursor delta).map fun _ => s.moveCursor delta

/-! ## The query -/

/-- Changes the text being typed. -/
def setFreeText (s : Dashboard) (text : String) : Dashboard :=
  if s.query.freeText = text then s else refilter { s with query := s.query.setFreeText text }

/-- Chooses a term; the answer tells whether it was new. -/
def addTerm (s : Dashboard) (term : String) : Dashboard × Bool :=
  let (query, added) := s.query.addTerm term
  (if added then refilter { s with query } else s, added)

/-- Gives up a term; the answer tells whether it was chosen. -/
def removeTerm (s : Dashboard) (term : String) : Dashboard × Bool :=
  let (query, removed) := s.query.removeTerm term
  (if removed then refilter { s with query } else s, removed)

/-- Gives up the term chosen last, which is the answer. -/
def popTerm (s : Dashboard) : Dashboard × Option String :=
  let (query, popped) := s.query.popTerm
  (if popped.isSome then refilter { s with query } else s, popped)

/-- Searches for nothing. -/
def clearQuery (s : Dashboard) : Dashboard := refilter { s with query := s.query.clear }

/-- Every name and tag that can be searched for, in the whole index. -/
def searchTerms (s : Dashboard) : List String := s.index.vocabulary

/-! ## Polls -/

/-- The tag pickers of an index: those that a repository has already, and new ones. -/
def pickersFor (pickers : Catalog TagPicker) (index : Index) : Catalog TagPicker :=
  index.map fun name record => (pickers.get? name).getD (TagPicker.ofRecord record)

/-- **A successful poll**, at the time `now`. Repositories that are gone lose their picker and their message. -/
def applyPoll (s : Dashboard) (now : String) (index : Index) : Dashboard :=
  refilter
    { s with
      index
      loading := false
      pickers := pickersFor s.pickers index
      errors := s.errors.filter fun name _ => index.contains name
      pollStatus := .ok
      updatedAt := some now }

/-- **A failed poll**: the last good index stays on screen. -/
def applyPollError (s : Dashboard) (error : ClientError) : Dashboard :=
  { s with pollStatus := .failed error.short }

/-- What a poll brought, at the time `now`. -/
def handlePoll (s : Dashboard) (now : String) : PollEvent → Dashboard
  | .updated index => s.applyPoll now index
  | .failed error => s.applyPollError error

/-! ## Tag pickers -/

/-- Steps through the displayed tags of the repository under the cursor. -/
def cycleTag (s : Dashboard) (delta : Int) : Dashboard :=
  match s.selected? with
  | none => s
  | some (name, record) => { s with pickers := s.pickers.modify name fun p => p.cycle record.tags delta }

/-- A step whose arithmetic is done in machine words. -/
def cycleTag? (s : Dashboard) (delta : Int) : Except Overflow Dashboard :=
  match s.selected? with
  | none => .ok s
  | some (name, record) =>
    match s.pickers.get? name with
    | none => .ok s
    | some picker => (picker.cycle? record.tags delta).map fun _ => s.cycleTag delta

/-- Chooses a tag for a repository. -/
def selectTag (s : Dashboard) (repo tag : String) : Dashboard :=
  { s with pickers := s.pickers.modify repo fun p => p.select tag }

/-- Changes the input of a repository's picker. -/
def setTagInput (s : Dashboard) (repo text : String) : Dashboard :=
  match s.index.get? repo with
  | none => s
  | some record => { s with pickers := s.pickers.modify repo fun p => p.setInput text record }

theorem setTagInput_of_unknown {s : Dashboard} {repo : String} (h : s.index.get? repo = none) (text : String) :
    s.setTagInput repo text = s := by
  unfold setTagInput
  rw [h]

theorem setTagInput_of_known {s : Dashboard} {repo : String} {record : Record} (h : s.index.get? repo = some record)
    (text : String) :
    s.setTagInput repo text = { s with pickers := s.pickers.modify repo fun p => p.setInput text record } := by
  unfold setTagInput
  rw [h]

/-! ## Commands for the repository under the cursor -/

/-- What the deploy button does: nothing while no tag is chosen. -/
def deployCommand? (s : Dashboard) : Option Command := do
  let (name, _) ← s.selected?
  let picker ← s.pickers.get? name
  if picker.selected = "" then none else some ⟨name, .deploy picker.selected⟩

/-- What the auto-deploy switch does. -/
def toggleCommand? (s : Dashboard) : Option Command :=
  s.selected?.map fun (name, record) => ⟨name, .setAutoDeploy !record.autoDeploy⟩

/-- What the reset button does. -/
def resetCommand? (s : Dashboard) : Option Command := s.selected?.map fun (name, _) => ⟨name, .reset⟩

/-! ## Commands under way -/

/-- A command of the repository is under way. -/
def isPending (s : Dashboard) (repo : String) : Bool := s.pending.any (·.command.repo = repo)

/-- The message about a repository's last failed command. -/
def errorFor? (s : Dashboard) (repo : String) : Option String := s.errors.get? repo

/-- **Begins a command**: its expected effect shows at once, and the answer is the number under which its end is to be
    reported. A repository that is not in the index takes no command. -/
def beginCommand (s : Dashboard) (command : Command) : Dashboard × Option Nat :=
  match s.index.get? command.repo with
  | none => (s, none)
  | some previous =>
    let optimistic := command.action.apply previous
    (refilter
      { s with
        index := s.index.insert command.repo optimistic
        errors := s.errors.erase command.repo
        notice := some (command.repo ++ " " ++ command.action.label ++ "…")
        nextId := s.nextId + 1
        pending := s.pending ++ [⟨s.nextId, command, previous, optimistic⟩] },
      some s.nextId)

/-- The dashboard after a failure of `p`: the record goes back to what it was, unless something else has been
    written since. -/
def revert (s : Dashboard) (p : PendingCommand) : Dashboard :=
  if s.index.get? p.command.repo = some p.optimistic then
    refilter { s with index := s.index.insert p.command.repo p.previous }
  else s

/-- **Ends a command**, with an error or without; the answer is the command, if it was under way. -/
def finishCommand (s : Dashboard) (id : Nat) (error : Option ClientError) : Dashboard × Option Command :=
  match s.pending.find? (·.id = id) with
  | none => (s, none)
  | some p =>
    let s := { s with pending := s.pending.filter (·.id ≠ id) }
    match error with
    | none =>
      ({ s with notice := some (p.command.repo ++ ": " ++ p.command.action.label ++ " accepted") },
        some p.command)
    | some e =>
      let s := s.revert p
      ({ s with
          errors := s.errors.insert p.command.repo (p.command.action.label ++ " failed: " ++ e.short)
          notice := none },
        some p.command)

end Dashboard

end DeployBoard
