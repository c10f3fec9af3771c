import DeployBoard.Http.Status

/-!
# `ClientError` — why a request to the backend failed

A request fails because no reply arrived, because the reply was a refusal, because its body could not be read or is not an
index, or because the client's address is unusable. Each failure has a kind, a message and a short form for the
status bar. The text of a failure below this program's own level is written as an ellipsis.
-/

namespace DeployBoard

/-- **A failed request.** -/
inductive ClientError where
  /-- No reply arrived. -/
  | network
  /-- No reply arrived within the time allowed. -/
  | timeout
  /-- A reply arrived, but its body could not be read. -/
  | unreadable
  /-- The backend refused. -/
  | server (status : Nat) (body : String)
  /-- The reply is not an index. -/
  | decode
  /-- The backend's address is unusable. -/
  | config (message : String)
  deriving DecidableEq, Repr

/-- The kinds of failure that callers tell apart. -/
inductive ErrorKind where
  | network | timeout | server | decode | config
  deriving DecidableEq, Repr

namespace ClientError

/-- The kind of a failure: a body that cannot be read counts as one that is not an index. -/
def kind : ClientError → ErrorKind
  | .network => .network
  | .timeout => .timeout
  | .unreadable => .decode
  | .server .. => .server
  | .decode => .decode
  | .config _ => .config

/-- **The message of a failure.** -/
def message : ClientError → String
  | .network | .timeout | .unreadable => "backend unreachable: …"
  | .server status body => "backend returned " ++ Http.statusText status ++ ": " ++ body
  | .decode => "unexpected response body: …"
  | .config message => "invalid configuration: " ++ message

/-- **The short form of a failure**, for one line. -/
def short : ClientError → String
  | .server status _ => "server error " ++ Http.statusText status
  | .timeout => "request timed out"
  | .network | .unreadable => "backend unreachable"
  | .decode => "unexpected response"
  | .config message => message

end ClientError

/-- The name of a kind. -/
def ErrorKind.name : ErrorKind → String
  | .network => "Network"
  | .timeout => "Timeout"
  | .server => "Server"
  | .decode => "Decode"
  | .config => "Config"

end DeployBoard
