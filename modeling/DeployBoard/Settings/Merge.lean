import DeployBoard.CommandLine
import DeployBoard.Settings.Basic
import DeployBoard.Text.Blank

/-!
# `Settings.Merge` — which setting wins

Each setting is the first that is present, from the command line through the environment, the project's file and the user's
file to the default. Some settings skip a place: the theme is not taken from the environment, and the time limits come
from the files only.

The time between polls is read from the environment only when the command line is silent; a value there that is not
a number is passed over with a notice. Too short a time is raised to the least one, with a notice.
-/

namespace DeployBoard

open Text

namespace Settings

/-- The time between polls that the environment asks for, with a notice when its value is not a number. -/
def envFrequency (env : Environment) : Option Nat × List Notice :=
  match env "RDASH_UPDATE_FREQUENCY_MS" with
  | none => (none, [])
  | some value =>
    match readUnsigned64 (trim value) with
    | .ok n => (some n, [])
    | .error e => (none, [.badEnv "RDASH_UPDATE_FREQUENCY_MS" value e.message])

/-- The time between polls that is asked for, and the notices on the way. -/
def requestedFrequency (given : CommandLine) (env : Environment) (project global : Layer) : Nat × List Notice :=
  match given.updateFrequencyMs with
  | some n => (n, [])
  | none =>
    let (fromEnv, notices) := envFrequency env
    (((fromEnv.or project.updateFrequencyMs).or global.updateFrequencyMs).getD
      ({} : Settings).updateFrequencyMs, notices)

/-- A time limit: from the project's file, the user's file, or the default. -/
def limit (field : HttpLayer → Option Nat) (project global : Layer) (default : Nat) : Nat :=
  ((field (project.http.getD {})).or (field (global.http.getD {}))).getD default

/-- **The settings that the four places come to**, and the notices on the way. -/
def merge (given : CommandLine) (env : Environment) (project global : Layer) : Settings × List Notice :=
  let defaults : Settings := {}
  let (requested, notices) := requestedFrequency given env project global
  ({ serverUrl :=
       (((given.serverUrl.or (env "RDASH_SERVER_URL")).or project.serverUrl).or global.serverUrl).getD
         defaults.serverUrl
     updateFrequencyMs := max minUpdateFrequencyMs requested
     theme := ((given.theme.or project.theme).or global.theme).getD defaults.theme
     http :=
       { connectTimeoutMs := limit (·.connectTimeoutMs) project global defaults.http.connectTimeoutMs
         requestTimeoutMs := limit (·.requestTimeoutMs) project global defaults.http.requestTimeoutMs }
     logFile :=
       (((given.logFile.or (env "RDASH_LOG_FILE")).or project.logFile).or global.logFile).getD
         defaults.logFile },
    notices ++ if requested < minUpdateFrequencyMs then [.clamped requested] else [])

end Settings

end DeployBoard
