import DeployBoard.Http.Backend
import DeployBoard.Http.Charset

/-!
# `Http.Response` — what a client learns of a request

A request is sent on when the reply says so (`send`): a command becomes a plain request for the new address, unless the reply
asks to repeat it. Ten times are followed, and no more. An address that the library does not take is not followed.
-/

namespace DeployBoard.Http

/-- **What a client learns of a request**: a status and a body, which is missing if it could not be read or did not come to
    its end, or that it had no answer. -/
inductive Response where
  | answered (status : Nat) (body : Option String)
  /-- The status came, and the rest of the body did not. -/
  | stalled (status : Nat) (timedOut : Bool)
  | unanswered (timedOut : Bool)
  deriving DecidableEq, Repr

/-- A reply with this status names a new address. -/
def isRedirect (status : Nat) : Bool := [301, 302, 303, 307, 308].contains status

/-- The request for a new address; only two statuses ask to repeat a command. -/
def Request.redirected (r : Request) (status : Nat) (url : Url) : Request :=
  if status = 307 ∨ status = 308 then { r with url } else { method := .get, url }

/-- So many redirections are followed. -/
def maxRedirects : Nat := 10

/-- The address that a reply sends the request on to. -/
def Reply.redirect? (r : Reply) (library : Library) (asked : Url) : Option Url :=
  if isRedirect r.status then
    (r.header? "location").bind fun location => (asked.join location).toOption.filter (library.takes · location)
  else none

/-- **What a client learns of a reply.** The status comes before the body. -/
def Reply.response (r : Reply) (library : Library) (limited : Bool) : Response :=
  if r.Stalls library then .stalled r.status limited else .answered r.status (r.text? library)

/-- Requests are sent to these addresses only. -/
def isHttp (url : Url) : Bool := url.scheme = "http" || url.scheme = "https"

/-- Sends a request that may be sent on `redirects` times. -/
def sendWithin (library : Library) (limited : Bool) : Nat → Request → Dialogue Response
  | redirects, r => .ask r fun
    | .unreachable | .closed => .done (.unanswered false)
    | .hangs => .done (.unanswered limited)
    | .reply reply =>
      match reply.redirect? library r.url with
      | none => .done (reply.response library limited)
      | some url =>
        if isHttp url then
          match redirects with
          | 0 => .done (.unanswered false)
          | redirects + 1 => sendWithin library limited redirects (r.redirected reply.status url)
        else .done (.unanswered false)

/-- **Sends a request.** A reply that never comes, and a body that stalls, are noticed only within a time limit. -/
def send (library : Library) (limited : Bool) (r : Request) : Dialogue Response :=
  sendWithin library limited maxRedirects r

end DeployBoard.Http
