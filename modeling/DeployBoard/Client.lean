import DeployBoard.ClientError
import DeployBoard.Command
import DeployBoard.Http.Response
import DeployBoard.Index.Encoding
import DeployBoard.Settings.Basic
import DeployBoard.Text.Quoted

/-!
# `Client` — talking to the backend

A client has the address of its backend and puts paths behind it. It can fetch the index and send commands. Both look at the
reply in the same way, but for a body that cannot be read: to fetch is to want the body, so that is an
error first of all, while a refused command is refused with or without a text.
-/

namespace DeployBoard

open Http

/-- **A client.** Without limits it waits for ever. -/
structure Client where
  baseUrl : String
  limits : Option HttpLimits := none
  /-- The library that sends its requests. -/
  library : Library := {}

/-- **The index in a response.** -/
def Http.Response.index : Response → Except ClientError Index
  | .unanswered true | .stalled _ true => .error .timeout
  | .unanswered false | .stalled _ false => .error .network
  | .answered _ none => .error .unreadable
  | .answered status (some body) =>
    if isSuccess status then
      match Index.decode? body with
      | some index => .ok index
      | none => .error .decode
    else .error (.server status body)

/-- **Whether a response accepts a command.** The body of a refusal is waited for, and that of a success is not. -/
def Http.Response.accepted : Response → Except ClientError Unit
  | .unanswered true => .error .timeout
  | .unanswered false => .error .network
  | .answered status body => if isSuccess status then .ok () else .error (.server status (body.getD ""))
  | .stalled status timedOut =>
    if isSuccess status then .ok () else .error (if timedOut then .server status "" else .network)

namespace Client

/-- **The client of an address**, which has to be one of the web's plain or secure pages. -/
def ofUrl? (baseUrl : String) (library : Library := {}) : Except ClientError Client :=
  let refuse (reason : String) : Except ClientError Client :=
    .error (.config ("server url " ++ Text.quoted baseUrl ++ ": " ++ reason))
  match Url.parse baseUrl with
  | .error e => refuse e.message
  | .ok url => if isHttp url then .ok { baseUrl, library } else refuse ("unsupported scheme " ++ url.scheme)

/-- The client with limits. -/
def withLimits (c : Client) (limits : HttpLimits) : Client := { c with limits := some limits }

/-- The address without slashes at its end. -/
def base (c : Client) : List Char := (c.baseUrl.toList.reverse.dropWhile (· = '/')).reverse

/-- **A path behind the address**, with one slash between them. -/
def endpoint (c : Client) (path : String) : String :=
  String.ofList (c.base ++ '/' :: path.toList.dropWhile (· = '/'))

/-- The request for the index. -/
def fetchRequest? (c : Client) : Option Request :=
  (Url.parse (c.endpoint "/repos")).toOption.map fun url => { method := .get, url }

/-- The request for a command. -/
def commandRequest? (c : Client) (command : Command) : Option Request :=
  (Url.parse (c.endpoint command.path)).toOption.map fun url =>
    { method := .post, url, contentType := some "application/json", body := command.bodyText }

/-- The request for a path, if it is sent: the library has to take the address. -/
def sent? (c : Client) (path : String) (asked : Option Request) : Option Request :=
  asked.filter fun r => c.library.takes r.url (c.endpoint path)

/-- **The request for the index**, if it is sent. -/
def fetchSent? (c : Client) : Option Request := c.sent? "/repos" c.fetchRequest?

/-- **The request for a command**, if it is sent. -/
def commandSent? (c : Client) (command : Command) : Option Request := c.sent? command.path (c.commandRequest? command)

/-- Sends a request, if there is one. -/
def sendSome (c : Client) : Option Request → Dialogue Response
  | some r => Http.send c.library c.limits.isSome r
  | none => .done (.unanswered false)

/-- **Fetches the index.** -/
def fetch (c : Client) : Dialogue (Except ClientError Index) := do
  return (← c.sendSome c.fetchSent?).index

/-- **Sends a command.** -/
def execute (c : Client) (command : Command) : Dialogue (Except ClientError Unit) := do
  return (← c.sendSome (c.commandSent? command)).accepted

end Client

end DeployBoard
