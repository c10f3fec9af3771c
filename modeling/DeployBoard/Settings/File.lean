import DeployBoard.Settings.Basic
import DeployBoard.Toml.Document

/-!
# `Settings.File` — the settings of a configuration file

A configuration file sets what it names; what the board does not know in it is passed over. A setting of the wrong type makes
the whole file malformed. The time limits stand in a table `http`, or in an array in the order in which the
table has them.
-/

namespace DeployBoard

open Toml

namespace Layer

/-- A setting that may be missing. -/
def field {α : Type} (es : Entries) (name : String) (read : Item → Option α) : Option (Option α) :=
  match es.lookup name with
  | none => some none
  | some item => (read item).map some

/-- A text. -/
def text? : Item → Option String
  | .string s => some s
  | _ => none

/-- A number that is not negative. -/
def unsigned? : Item → Option Nat
  | .integer n => if 0 ≤ n then some n.toNat else none
  | _ => none

/-- **The time limits.** A date counts as a table without any. -/
def limits? : Item → Option HttpLayer
  | .table _ es => do
    some
      { connectTimeoutMs := ← field es "connect_timeout_ms" unsigned?
        requestTimeoutMs := ← field es "request_timeout_ms" unsigned? }
  | .array (connect :: request :: _) => do
    some { connectTimeoutMs := some (← unsigned? connect), requestTimeoutMs := some (← unsigned? request) }
  | .datetime => some {}
  | _ => none

/-- The settings of a table. -/
def ofEntries (es : Entries) : Option Layer := do
  some
    { serverUrl := ← field es "server_url" text?
      updateFrequencyMs := ← field es "update_frequency_ms" unsigned?
      theme := ← field es "theme" text?
      logFile := ← field es "log_file" text?
      http := ← field es "http" limits? }

/-- **Reads a configuration file**, if it is one. -/
def parse? (text : String) : Option Layer := (Toml.parse? text).bind ofEntries

end Layer

end DeployBoard
