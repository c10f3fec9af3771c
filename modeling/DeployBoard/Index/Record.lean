import DeployBoard.Catalog

/-!
# `Index.Record` — what the backend says about a repository

The backend answers with an index: for each repository name a record of its image tags, of the tag it is pinned to,
of the version that is current, and of whether new versions deploy by themselves.
-/

namespace DeployBoard

/-- **A repository's record.** An empty `pinnedTag` means that the repository is not pinned. -/
structure Record where
  tags : List String := []
  pinnedTag : String := ""
  pinnedTagValue : String := ""
  autoDeploy : Bool := false
  deriving DecidableEq, Repr, Inhabited

/-- A tag is pinned. -/
def Record.isPinned (record : Record) : Bool := record.pinnedTag ≠ ""

/-- What is shown below a repository's name: its pin, or else its current version. -/
def Record.subtitle (record : Record) : String :=
  if record.isPinned then record.pinnedTag else "Latest version: " ++ record.pinnedTagValue

/-- How the auto-deploy switch is shown. -/
def Record.switch (record : Record) : String := if record.autoDeploy then "on" else "off"

/-- **The repository index**: a record for each repository name, in name order. -/
abbrev Index := Catalog Record

end DeployBoard
