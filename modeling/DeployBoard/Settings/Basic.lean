/-!
# `Settings.Basic` — what can be set

The board is set up from four places: its command line, the environment, a configuration file of the project and one of
the user. `Layer` is what one file sets, `Settings` what they come to, and `Notice` what is to be told about
the way there.
-/

namespace DeployBoard

/-- Time limits for requests, in milliseconds. -/
structure HttpLimits where
  connectTimeoutMs : Nat := 5000
  requestTimeoutMs : Nat := 10000
  deriving DecidableEq, Repr, Inhabited

/-- **What the board runs with.** -/
structure Settings where
  serverUrl : String := "http://localhost:8080"
  updateFrequencyMs : Nat := 5000
  theme : String := "dark"
  http : HttpLimits := {}
  logFile : String := "./rdash.log"
  deriving DecidableEq, Repr, Inhabited

/-- Polls are at least so far apart, in milliseconds. -/
def minUpdateFrequencyMs : Nat := 250

/-- Time limits that a configuration file sets. -/
structure HttpLayer where
  connectTimeoutMs : Option Nat := none
  requestTimeoutMs : Option Nat := none
  deriving DecidableEq, Repr, Inhabited

/-- **What a configuration file sets.** -/
structure Layer where
  serverUrl : Option String := none
  updateFrequencyMs : Option Nat := none
  theme : Option String := none
  logFile : Option String := none
  http : Option HttpLayer := none
  deriving DecidableEq, Repr, Inhabited

/-- **A configuration file that is not one**, and what its reader says of it. -/
structure MalformedFile where
  path : String
  error : String
  deriving DecidableEq, Repr

/-- Such a file is named by its path. -/
instance : Coe MalformedFile String := ⟨MalformedFile.path⟩

/-- **What happened while the settings were found.** -/
inductive Notice where
  /-- A configuration file was read. -/
  | loaded (path : String)
  /-- A configuration file is not one. -/
  | malformed (file : MalformedFile)
  /-- A variable of the environment has no usable value. -/
  | badEnv (key value error : String)
  /-- The time between polls was too short. -/
  | clamped (requestedMs : Nat)
  deriving DecidableEq, Repr

/-- Values by variable name. -/
abbrev Environment := String → Option String

end DeployBoard
