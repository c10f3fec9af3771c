import DeployBoard.Client
import DeployBoard.Index.Filter
import DeployBoard.LineCommand
import DeployBoard.Text.Lines

/-!
# `LineMode` — the board without a screen

Each line of input is one command, answered before the next is read. A request that fails is an answer as well; only a quitting
line, the end of the input, or a line that is no text ends the run.
-/

namespace DeployBoard

open Http

/-- **What is written**, and where. -/
inductive Output where
  | out (text : String)
  | err (text : String)
  deriving DecidableEq, Repr

/-- The text on the standard output. -/
def Output.standard (outputs : List Output) : String :=
  String.join (outputs.map fun
    | .out text => text
    | .err _ => "")

/-- The text on the error output. -/
def Output.errors (outputs : List Output) : String :=
  String.join (outputs.map fun
    | .out _ => ""
    | .err text => text)

namespace LineMode

/-- The first line of a run. -/
def banner : String := "rdash (line mode) - type /help for commands\n"

/-- The message for input that is no text. -/
def notText : String := "stream did not contain valid UTF-8"

/-- What is written for a list of repositories. -/
def listed (terms : List String) : Except ClientError Index → Output
  | .ok index => .out (index.filterTerms (Terms.ofList terms)).listing
  | .error e => .err ("list error: " ++ e.message ++ "\n")

/-- What is written for the list of searchable texts. -/
def indexed : Except ClientError Index → Output
  | .ok index => .out (String.join (index.vocabulary.map (· ++ "\n")))
  | .error e => .err ("index error: " ++ e.message ++ "\n")

/-- What is written for a command. -/
def executed (command : Command) : Except ClientError Unit → Output
  | .ok () => .out (command.repo ++ ": " ++ command.action.label ++ " accepted\n")
  | .error e => .err (command.repo ++ ": " ++ command.action.label ++ " failed: " ++ e.message ++ "\n")

/-- **What is written for a line command.** -/
def respond (client : Client) : LineCommand → Dialogue (List Output)
  | .help => return [.out (LineCommand.helpText ++ "\n")]
  | .quit => return []
  | .usage text => return [.err (text ++ "\n")]
  | .unknown text => return [.err ("unknown command: " ++ text ++ " (try /help)\n")]
  | .list terms => return [listed terms (← client.fetch)]
  | .index => return [indexed (← client.fetch)]
  | .run command => return [executed command (← client.execute command)]

/-- **What is written for a line**, if the run goes on after it. -/
def respondLine (client : Client) (line : String) : Option (Dialogue (List Output)) :=
  match LineCommand.parse line with
  | none => some (.done [])
  | some .quit => none
  | some command => some (respond client command)

/-- **How a run ends**: what was written, and whether the input was no text. -/
structure Run where
  outputs : List Output
  failed : Bool := false

/-- Runs lines, of which a missing one is no text. -/
def runLines (client : Client) : List (Option String) → Dialogue Run
  | [] => return { outputs := [] }
  | none :: _ => return { outputs := [], failed := true }
  | some line :: rest =>
    match respondLine client line with
    | none => return { outputs := [] }
    | some respond => do
      let outputs ← respond
      let run ← runLines client rest
      return { run with outputs := outputs ++ run.outputs }

/-- **Runs line mode** on the bytes of its input. -/
def run (client : Client) (input : List Nat) : Dialogue Run := do
  let run ← runLines client ((Text.inputLines input).map (·.content))
  return { run with outputs := .out banner :: run.outputs }

end LineMode

end DeployBoard
