import DeployBoard.FileTree
import DeployBoard.Settings.File
import DeployBoard.Settings.Merge

/-!
# `Settings.Search` — where configuration files are looked for

The project's file lies below the working directory. The user's file is the first of a list of candidates: the one named by the
environment, and the one in the user's configuration directory, or, if none is set, below the home directory, which is
the one of the user's account where the environment has none. A candidate that is malformed is passed over with a
notice; one that is there but cannot be read ends the search without a file.

What the reader of configuration files says of a text that is none is left open, as `complaint`.
-/

namespace DeployBoard

namespace Settings

/-- What stands at each path. -/
abbrev Files := String → FileState

/-- A path below a directory; the empty directory is the working directory. -/
def below (directory path : String) : String :=
  if directory = "" || directory.endsWith "/" then directory ++ path else directory ++ "/" ++ path

/-- The path of the project's file. -/
def projectPath (workingDirectory : String) : String := below workingDirectory ".rdash/config.toml"

/-- The home directory: the environment's, or else the one of the user's account. An empty one is none. -/
def home? (env : Environment) (account : Option String) : Option String :=
  ((env "HOME").filter (· ≠ "")).or (account.filter (· ≠ ""))

/-- **Where the user's file may lie**, in the order of the search. -/
def candidates (env : Environment) (account : Option String := none) : List String :=
  (env "RDASH_CONFIG").toList ++
    match env "XDG_CONFIG_HOME" with
    | some directory => [below directory "rdash/config.toml"]
    | none => ((home? env account).map fun home => below home ".config/rdash/config.toml").toList

/-- What the text of a file sets, and the notice about it. -/
def readLayer (complaint : String → String) (path text : String) : Option Layer × Notice :=
  match Layer.parse? text with
  | some layer => (some layer, .loaded path)
  | none => (none, .malformed ⟨path, complaint text⟩)

/-- What the project's file sets, and the notices about it. -/
def projectLayer (complaint : String → String) (files : Files) (path : String) : Layer × List Notice :=
  match files path with
  | .text text =>
    let (layer, notice) := readLayer complaint path text
    (layer.getD {}, [notice])
  | .missing | .unreadable => ({}, [])

/-- **What the user's file sets**, and the notices about the search. -/
def globalLayer (complaint : String → String) (files : Files) : List String → Layer × List Notice
  | [] => ({}, [])
  | path :: rest =>
    match files path with
    | .missing => globalLayer complaint files rest
    | .unreadable => ({}, [])
    | .text text =>
      match readLayer complaint path text with
      | (some layer, notice) => (layer, [notice])
      | (none, notice) =>
        let (layer, notices) := globalLayer complaint files rest
        (layer, notice :: notices)

/-- The variables of the environment that settings depend on. -/
def variableNames : List String :=
  ["RDASH_CONFIG", "RDASH_SERVER_URL", "RDASH_UPDATE_FREQUENCY_MS", "RDASH_LOG_FILE", "XDG_CONFIG_HOME", "HOME"]

/-- **The settings of a run**, and the notices on the way. -/
def find (given : CommandLine) (env : Environment) (files : Files) (workingDirectory : String)
    (account : Option String := none) (complaint : String → String := fun _ => "…") : Settings × List Notice :=
  let (project, projectNotices) := projectLayer complaint files (projectPath workingDirectory)
  let (global, globalNotices) := globalLayer complaint files (candidates env account)
  let (settings, notices) := merge given env project global
  (settings, projectNotices ++ globalNotices ++ notices)

end Settings

end DeployBoard
