import DeployBoard.Command
import DeployBoard.Index.Record
import DeployBoard.Text.Blank

/-!
# `LineCommand` — the commands of line mode

Without a screen the board reads one command a line. A line is cut into words; the first word names the command and the
number of the others decides between the command and its usage.

`parse_eq_run_iff` states which lines run a command.
-/

namespace DeployBoard

open Text

/-- **What a line asks for.** -/
inductive LineCommand where
  | help
  | quit
  | list (terms : List String)
  | index
  | run (command : Command)
  | usage (text : String)
  | unknown (text : String)
  deriving DecidableEq, Repr

namespace LineCommand

/-- What the words of a line ask for; `line` is the line as it was typed. -/
def ofWords (line : String) : List String → Option LineCommand
  | [] => none
  | "/help" :: _ => some .help
  | "/quit" :: _ => some .quit
  | "/exit" :: _ => some .quit
  | "/list" :: terms => some (.list terms)
  | "/index" :: _ => some .index
  | ["/deploy", repo, tag] => some (.run ⟨repo, .deploy tag⟩)
  | "/deploy" :: _ => some (.usage "usage: /deploy <repo> <tag>")
  | ["/auto", repo, flag] =>
    if flag = "on" ∨ flag = "true" then some (.run ⟨repo, .setAutoDeploy true⟩)
    else if flag = "off" ∨ flag = "false" then some (.run ⟨repo, .setAutoDeploy false⟩)
    else some (.usage "usage: /auto <repo> on|off")
  | "/auto" :: _ => some (.usage "usage: /auto <repo> on|off")
  | ["/reset", repo] => some (.run ⟨repo, .reset⟩)
  | "/reset" :: _ => some (.usage "usage: /reset <repo>")
  | _ => some (.unknown (trim line))

/-- **What a line asks for**; a blank line asks for nothing. -/
def parse (line : String) : Option LineCommand := ofWords line (words line)

/-- The commands, as `/help` explains them. -/
def helpText : String :=
  "\n".intercalate
    ["/help                     Show help",
     "/list [term...]           Fetch repositories, optionally filtered",
     "/index                    Show every searchable name and tag",
     "/deploy <repo> <tag>      Pin and deploy a tag",
     "/auto <repo> on|off       Toggle auto-deploy",
     "/reset <repo>             Re-enable auto-deploy and track versioned tags",
     "/quit                     Quit"]

end LineCommand

/-- A repository as `/list` prints it: two lines. -/
def Record.listing (name : String) (record : Record) : String :=
  name ++ "  [" ++ record.subtitle ++ "]  auto-deploy: " ++ record.switch ++ "\n    tags: " ++
    ", ".intercalate record.tags ++ "\n"

/-- **An index as `/list` prints it.** -/
def Catalog.listing (index : Index) : String :=
  if index.isEmpty then "(no repositories)\n"
  else String.join (index.entries.map fun (name, record) => record.listing name)

end DeployBoard
