import DeployBoard.Http.Status
import DeployBoard.Url.Basic

/-!
# `Http.Message` — requests, replies, and what becomes of a request

A request meets a fate (`Delivery`): it is answered, or it is not, in one of several ways. Only a backend that cannot be
reached does not see the request.
-/

namespace DeployBoard.Http

/-- The methods that are used. -/
inductive Method where
  | get | post
  deriving DecidableEq, Repr

/-- The name of a method. -/
def Method.name : Method → String
  | .get => "GET"
  | .post => "POST"

/-- **A request.** -/
structure Request where
  method : Method
  url : Url
  contentType : Option String := none
  body : String := ""
  deriving DecidableEq, Repr

/-- **How the body of a reply ends.** -/
inductive Ending where
  | complete
  /-- The connection is closed before the body is complete. -/
  | cutShort
  /-- The rest of the body never comes. -/
  | stalled
  deriving DecidableEq, Repr

/-- **A reply**; the names of headers do not depend on case. The body is what comes of it. -/
structure Reply where
  status : Nat := 200
  headers : List (String × String) := []
  body : List Nat := []
  ending : Ending := .complete
  deriving DecidableEq, Repr

/-- The value of a header. -/
def Reply.header? (r : Reply) (name : String) : Option String :=
  (r.headers.find? fun h => h.1.toLower = name).map (·.2)

/-- **What becomes of a request.** -/
inductive Delivery where
  | reply (r : Reply)
  /-- The connection is closed without a reply. -/
  | closed
  /-- No reply ever comes. -/
  | hangs
  /-- There is no connection. -/
  | unreachable
  deriving DecidableEq, Repr

end DeployBoard.Http
