import DeployBoard.Dashboard.State
import DeployBoard.Text.Width

/-!
# `Dashboard.Plan` — what the screen is to say

A plan holds the texts of a screen before they are laid out: header, status, chosen terms, the rows of the list or a message
in their place, and the footer. Header, status and footer are cut to the width of the screen.
-/

namespace DeployBoard

open Text

/-- The keys, as the footer explains them. -/
def keyHelp : String :=
  "↑↓ select  ←→ tag  Enter deploy  ^A auto-deploy  ^R reset  ^T pick tag  Tab add term  Esc clear  ^Q quit"

/-- **The texts of one repository's rows.** -/
structure RowPlan where
  name : String
  subtitle : String
  tagLine : String
  action : String
  pending : Bool
  error : Option String
  deriving DecidableEq, Repr

/-- The list, or what stands in its place. -/
inductive BodyPlan where
  | loading
  | empty (message : String)
  | rows (rows : List RowPlan)
  deriving DecidableEq, Repr

/-- **The texts of a screen.** -/
structure Plan where
  header : String
  status : String
  chips : List String
  body : BodyPlan
  footer : String
  deriving DecidableEq, Repr

namespace Dashboard

/-- The status line in two parts: the text before the time of the last successful poll, and, if that time is shown, the time with
    what follows it. -/
def statusParts (s : Dashboard) : String × Option (String × String) :=
  match s.pollStatus, s.updatedAt with
  | .waiting, _ => ("connecting…", none)
  | .ok, some time => ("updated ", some (time, ""))
  | .ok, none => ("updated", none)
  | .failed message, some time => ("poll failed: " ++ message ++ " (data from ", some (time, ")"))
  | .failed message, none => ("poll failed: " ++ message, none)

/-- The status line. -/
def statusText (s : Dashboard) : String :=
  match s.statusParts with
  | (before, none) => before
  | (before, some (time, after)) => before ++ time ++ after

/-- The row of a displayed repository. -/
def rowPlan (s : Dashboard) (name : String) (record : Record) : RowPlan :=
  let (tag, action) :=
    match s.pickers.get? name with
    | some picker => (picker.selected, picker.actionLabel record)
    | none => (record.pinnedTagValue, "Redeploy " ++ record.pinnedTagValue)
  { name
    subtitle := record.subtitle
    tagLine := "tag ◂ " ++ tag ++ " ▸  " ++ toString record.tags.length ++ " tags  auto-deploy: " ++ record.switch
    action := "[" ++ action ++ "]"
    pending := s.isPending name
    error := s.errorFor? name }

/-- The list of a dashboard. -/
def bodyPlan (s : Dashboard) : BodyPlan :=
  if s.loading then .loading
  else if s.display.isEmpty then
    .empty (if s.query.isEmpty then "No repositories" else "No repositories match the current search")
  else .rows (s.display.entries.map fun (name, record) => s.rowPlan name record)

/-- The whole text of the header. -/
def headerText (s : Dashboard) (title url : String) : String :=
  title ++ " | " ++ url ++ " | " ++ toString s.display.size ++ "/" ++ toString s.index.size ++ " repositories"

/-- The plan of a screen that is `columns` columns wide and shows characters as wide as `width` says. -/
def planWith (s : Dashboard) (width : Char → Nat) (title url : String) (columns : Nat) : Plan :=
  { header := truncateWith width (s.headerText title url) columns
    status := truncateWith width s.statusText columns
    chips := s.query.chosen
    body := s.bodyPlan
    footer := truncateWith width (s.notice.getD keyHelp) columns }

/-- **The plan of a screen** that is `columns` columns wide. -/
def plan (s : Dashboard) (title url : String) (columns : Nat) : Plan := s.planWith charWidth title url columns

end Dashboard

end DeployBoard
