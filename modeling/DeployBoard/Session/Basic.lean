import DeployBoard.Completion
import DeployBoard.Dashboard.State
import DeployBoard.TextBox.Bindings
import DeployBoard.Theme

/-!
# `Session.Basic` — the interactive board between two keys

A session is the dashboard with what surrounds it: the search box, the tag picker's box while one is open, the popup with
suggestions, and the theme. What a session wants done outside it, requests for commands and polls, it puts
into its outbox; what comes back reaches it as events.
-/

namespace DeployBoard

/-- **Where typed text goes**: to the search, or to the tag picker of a repository. -/
inductive Mode where
  | search
  | tag (repo : String)
  deriving DecidableEq, Repr, Inhabited

/-- **What is to be done outside a session.** -/
inductive Effect where
  /-- Send a command, and report its end under its number. -/
  | send (id : Nat) (command : Command)
  /-- Fetch the index. -/
  | poll
  deriving DecidableEq, Repr

/-- **What reaches a session from outside.** -/
inductive Event where
  | poll (event : PollEvent)
  | finished (id : Nat) (error : Option ClientError)

/-- **A session.** -/
structure Session where
  title : String
  url : String
  theme : Theme
  dashboard : Dashboard := {}
  mode : Mode := .search
  searchBox : TextBox := {}
  tagBox : TextBox := {}
  completion : Completion := {}
  /-- There is a backend to send commands to. -/
  connected : Bool := false
  /-- The backend is polled. -/
  polling : Bool := false
  /-- What is to be done, oldest first. -/
  outbox : List Effect := []
  /-- The screen is out of date. -/
  dirty : Bool := true

namespace Session

/-- A session without a backend. -/
def start (title url theme : String) : Session := { title, url, theme := Theme.byName theme }

/-- Commands go to a backend. -/
def connect (s : Session) : Session := { s with connected := true }

/-- Asks for something to be done. -/
def ask (s : Session) (e : Effect) : Session := { s with outbox := s.outbox ++ [e] }

/-- Asks for a poll, if the backend is polled. -/
def refresh (s : Session) : Session := if s.polling then s.ask .poll else s

/-- Begins to poll, at once. -/
def startPolling (s : Session) : Session := { s with polling := true }.ask .poll

/-- Polls no more. -/
def stopPolling (s : Session) : Session := { s with polling := false }

/-- The tags that the open picker chooses from. -/
def pickerTags (s : Session) (repo : String) : List String := ((s.dashboard.index.get? repo).map (·.tags)).getD []

/-- **Finds the suggestions again** for the box that is typed into. -/
def refreshCompletion (s : Session) : Session :=
  { s with
    completion :=
      match s.mode with
      | .search => s.completion.update s.dashboard.searchTerms s.searchBox.text s.dashboard.query.chosen
      | .tag repo => s.completion.update (s.pickerTags repo) s.tagBox.text [] }

/-- **Submits a command**: its expected effect shows at once, and it is sent if there is a backend. -/
def submit (s : Session) (command : Command) : Session :=
  match s.dashboard.beginCommand command with
  | (_, none) => s
  | (dashboard, some id) =>
    let s := { s with dashboard, dirty := true }
    if s.connected then s.ask (.send id command) else s

/-- Submits a command if there is one. -/
def submitSome (s : Session) (command : Option Command) : Session :=
  match command with
  | none => s
  | some c => s.submit c

/-- **Handles an event**, at the time `now`. A command that succeeded is followed by a poll. -/
def handle (s : Session) (now : String) (event : Event) : Session :=
  let s :=
    match event with
    | .poll p => { s with dashboard := s.dashboard.handlePoll now p }.refreshCompletion
    | .finished id error =>
      let (dashboard, command) := s.dashboard.finishCommand id error
      let s := { s with dashboard }
      if command.isSome && error.isNone then s.refresh else s
  { s with dirty := true }

/-- Handles events in their order. -/
def drain (s : Session) (now : String) (events : List Event) : Session := events.foldl (fun s e => s.handle now e) s

end Session

end DeployBoard
