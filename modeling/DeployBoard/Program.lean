import DeployBoard.LineMode
import DeployBoard.Settings.DotEnv
import DeployBoard.Settings.Search

/-!
# `Program` — a whole run of the program

A run reads the `.env` file, the command line and the configuration, makes a client, and then is line mode or the dashboard. What
it needs of the machine is in `Machine`, and what becomes of it is an `Outcome`.
-/

namespace DeployBoard

/-- **What a run needs of the machine.** -/
structure Machine where
  arguments : List String
  environment : Environment
  workingDirectory : String
  /-- Why there is no working directory, if there is none. -/
  directoryError : Option String := none
  /-- The home directory of the user's account. -/
  accountHome : Option String := none
  /-- What stands at a path. -/
  files : String → Option FileTree
  /-- The standard input. -/
  input : List Nat

/-- **What a run comes to before its work begins.** -/
inductive Start where
  /-- The command line was refused, or asked for a text. -/
  | usage (error : UsageError)
  /-- There is no working directory. -/
  | nowhere (error : String)
  /-- There is no client for the address in the settings. -/
  | refused (error : ClientError)
  /-- The work is line mode. -/
  | lineMode (client : Client)
  /-- The work is the dashboard. -/
  | dashboard (settings : Settings) (client : Client)

/-- **The end of a run**: its exit code, and what was written. -/
structure Exit where
  code : Nat
  outputs : List Output
  deriving DecidableEq, Repr

namespace Program

/-- The environment with the variables of the nearest `.env` file, which is looked for from the working directory on. -/
def environment (m : Machine) : Environment :=
  let near := if m.directoryError.isSome then [] else DotEnv.candidates m.workingDirectory
  match near.findSome? fun path => (m.files path).bind FileTree.bytes? with
  | some bytes => DotEnv.load m.environment bytes
  | none => m.environment

/-- **The settings of a run**, and the notices on the way. There are none without a working directory. -/
def settings (m : Machine) (given : CommandLine) : Except String (Settings × List Notice) :=
  match m.directoryError with
  | some error => .error error
  | none =>
    .ok (Settings.find given (environment m) (fun path => FileTree.stateOf (m.files path)) m.workingDirectory m.accountHome)

/-- **The start of a run.** -/
def start (m : Machine) : Start :=
  match CommandLine.parse m.arguments with
  | .error e => .usage e
  | .ok given =>
    match settings m given with
    | .error e => .nowhere e
    | .ok (settings, _) =>
      match Client.ofUrl? settings.serverUrl with
      | .error e => .refused e
      | .ok client =>
        let client := client.withLimits settings.http
        if given.noTui then .lineMode client else .dashboard settings client

/-- The report of an error, with its cause. -/
def report (text : String) (cause : Option String) : Output :=
  .err ("Error: " ++ text ++ "\n" ++ match cause with
    | some cause => "\nCaused by:\n    " ++ cause ++ "\n"
    | none => "")

/-- The report that there is no working directory. -/
def lost (error : String) : Output := report "resolve current dir" (some error)

/-- The report that there is no client. -/
def refusal (e : ClientError) : Output := report "configure backend client" (some e.message)

/-- The report that the input of line mode is no text. -/
def notText : Output := report LineMode.notText none

/-- **A run without a screen**; the dashboard does not come to an end by itself. -/
def run (m : Machine) : Http.Dialogue (Option Exit) :=
  match start m with
  | .usage e => return some { code := e.exitCode, outputs := [] }
  | .nowhere e => return some { code := 1, outputs := [lost e] }
  | .refused e => return some { code := 1, outputs := [refusal e] }
  | .lineMode client => do
    let run ← LineMode.run client m.input
    return some (if run.failed then { code := 1, outputs := run.outputs ++ [notText] } else { code := 0, outputs := run.outputs })
  | .dashboard _ _ => return none

end Program

end DeployBoard
