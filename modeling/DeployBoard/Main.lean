import DeployBoard.Http.Wire
import DeployBoard.Program
import Std.Async.DNS
import Std.Async.System
import Std.Async.TCP
import Std.Async.Timer

/-!
# `Main` — the command line

The command line finds what a run needs of the machine, starts the run, and leads its dialogues over the network. It answers
line by line without a screen. It has no terminal to draw a dashboard on.
-/

namespace DeployBoard.Terminal

open Std.Async Http

/-! ## Network -/

/-- Connects to one of some addresses, in order. -/
def connectAny (port : UInt16) : List Std.Net.IPAddr → Async TCP.Socket.Client
  | [] => throw (IO.userError "no address")
  | address :: rest => do
    let client ← TCP.Socket.Client.mk
    try
      client.connect (match address with
        | .v4 addr => .v4 { addr, port }
        | .v6 addr => .v6 { addr, port })
      return client
    catch _ => connectAny port rest

/-- What work comes to within a time limit. -/
def within {α : Type} (limit : Option Nat) (work : Async α) : Async (Option α) :=
  match limit with
  | none => return some (← work)
  | some ms => Async.race (do return some (← work)) do
    sleep (Std.Time.Millisecond.Offset.ofNat ms)
    return none

/-- Receives all bytes that still come. -/
partial def receiveAll (client : TCP.Socket.Client) (received : IO.Ref ByteArray) : Async Unit := do
  match ← client.recv? 65536 with
  | some bytes =>
    received.modify (· ++ bytes)
    receiveAll client received
  | none => return ()

/-- What the bytes of a connection come to, if they are read as a reply. -/
def received? (received : IO.Ref ByteArray) : BaseIO (Option Reply) := do
  return Reply.ofBytes? ((← received.get).toList.map UInt8.toNat)

/-- Sends a request over a connection of its own. -/
def converse (limits : Option HttpLimits) (received : IO.Ref ByteArray) (r : Request) : Async Delivery := do
  let host := (r.url.host.map Url.Host.text).getD ""
  let port := r.url.port.getD ((Url.usualPort? r.url.scheme).getD 80)
  match ← within (limits.map (·.connectTimeoutMs)) do
      connectAny port.toUInt16 (← DNS.getAddrInfo host "").toList with
  | none => return .unreachable
  | some client =>
    client.send ⟨(r.toBytes.map Nat.toUInt8).toArray⟩
    receiveAll client received
    return match ← received? received with
      | some reply => .reply reply
      | none => .closed

/-- **What becomes of a request** over the network, where only plain connections are made. When the time is up, what has come
    of a reply is one that stalls. -/
def deliver (limits : Option HttpLimits) (r : Request) : IO Delivery := do
  if r.url.scheme = "http" then
    try
      let received ← IO.mkRef ByteArray.empty
      match ← (within (limits.map (·.requestTimeoutMs)) (converse limits received r)).block with
      | some delivery => return delivery
      | none =>
        return match ← received? received with
          | some reply => .reply { reply with ending := .stalled }
          | none => .hangs
    catch _ => return .unreachable
  else return .unreachable

/-- **Leads a dialogue** over the network. -/
def lead {α : Type} (limits : Option HttpLimits) : Dialogue α → IO α
  | .done a => return a
  | .ask r next => do lead limits (next (← deliver limits r))

/-! ## Machine -/

/-- What stands at a path. -/
def readPath (path : String) : IO (Option FileTree) := do
  try return some (.file ((← IO.FS.readBinFile path).toList.map UInt8.toNat))
  catch
    | .noFileOrDirectory .. => return none
    | _ => return some FileTree.empty

/-- What stands at some paths. -/
def readPaths (paths : List String) : IO (List (String × FileTree)) := do
  return (← paths.mapM fun path => do return (← readPath path).toList.map (path, ·)).flatten

/-- The variables of the environment with some names. -/
def readVariables (names : List String) : IO (List (String × String)) := do
  return (← names.mapM fun name => do return (← IO.getEnv name).toList.map (name, ·)).flatten

/-- The working directory, or why there is none. -/
def readDirectory : IO (String × Option String) := do
  try return ((← IO.currentDir).toString, none)
  catch e => return ("", some (toString e))

/-- The home directory of the user's account. -/
def readAccountHome : IO (Option String) := do
  try return (← System.getCurrentUser).homeDir.map toString
  catch _ => return none

/-- **The machine as a run finds it.** The input is read later, line by line. -/
def readMachine (arguments : List String) : IO Machine := do
  let (workingDirectory, directoryError) ← readDirectory
  let accountHome ← readAccountHome
  let near ← readPaths (DotEnv.candidates workingDirectory)
  let mentioned := near.flatMap fun (_, tree) => (tree.bytes?.map DotEnv.mentioned).getD []
  let found ← readVariables (Settings.variableNames ++ mentioned)
  let machine : Machine :=
    { arguments, environment := fun name => found.lookup name, workingDirectory, directoryError, accountHome
      files := fun path => near.lookup path, input := [] }
  let far ← readPaths (Settings.projectPath workingDirectory :: Settings.candidates (Program.environment machine) accountHome)
  return { machine with files := fun path => (near ++ far).lookup path }

/-! ## Runs -/

/-- Writes outputs. -/
def write (outputs : List Output) : IO Unit := do
  for output in outputs do
    match output with
    | .out text => IO.print text
    | .err text => IO.eprint text
  (← IO.getStdout).flush

/-- The bytes of the next line of input, after those that were read. -/
partial def readLine (input : IO.FS.Stream) (bytes : List Nat) : IO (List Nat) := do
  match (← input.read 1).toList with
  | [] => return bytes.reverse
  | b :: _ => if b = 0x0A then return (0x0A :: bytes).reverse else readLine input (b.toNat :: bytes)

/-- **Answers lines** until there are no more, and gives the exit code. -/
partial def answerLines (client : Client) (input : IO.FS.Stream) : IO UInt32 := do
  match Text.inputLines (← readLine input []) with
  | [] => return 0
  | line :: _ =>
    match line.content.map (LineMode.respondLine client) with
    | none =>
      write [Program.notText]
      return 1
    | some none => return 0
    | some (some respond) =>
      write (← lead client.limits respond)
      answerLines client input

/-- **Runs the program**, and gives its exit code. -/
def run (arguments : List String) : IO UInt32 := do
  match Program.start (← readMachine arguments) with
  | .usage e =>
    match e with
    | .displayHelp => write [.out CommandLine.helpText]
    | .displayVersion => write [.out CommandLine.versionText]
    | _ => write [.err ("error: " ++ e.name ++ "\n\n" ++ CommandLine.helpText)]
    return e.exitCode.toUInt32
  | .nowhere e =>
    write [Program.lost e]
    return 1
  | .refused e =>
    write [Program.refusal e]
    return 1
  | .lineMode client =>
    write [.out LineMode.banner]
    answerLines client (← IO.getStdin)
  | .dashboard _ _ =>
    write [.err "Error: there is no terminal; try --no-tui\n"]
    return 1

end DeployBoard.Terminal

/-- **The program.** -/
def main (arguments : List String) : IO UInt32 := DeployBoard.Terminal.run arguments
