import DeployBoard.Client
import DeployBoard.Session.Basic

/-!
# `Poller` — fetching the index again and again

A poller waits until its time is up or until it is asked, fetches the index, and reports what came of it, a failure too.
Asking more than once before it gets to it asks once, and a fetch that was asked for puts its time off. It ends when it was
cancelled, at once or after the fetch that it is in, or when nobody hears its reports. A fetch without limits may last for
ever.

What happens to a poller is a list of moves (`move?`), of which some come from outside and some are its own; several of its own may
be possible at the same time.
-/

namespace DeployBoard

open Http

namespace Poller

/-- **What a poller is at.** -/
inductive Phase where
  | waiting
  /-- It fetches, and this is what it will report, if the fetch ever ends. -/
  | fetching (report : Option PollEvent)
  | ended

/-- **What can happen to a poller.** -/
inductive Move where
  /-- Its time is up. -/
  | tick
  /-- It is asked to fetch. -/
  | refresh
  /-- It is to end. -/
  | cancel
  /-- Nobody hears it any more. -/
  | leave
  /-- It begins to fetch because its time is up. -/
  | fetchDue
  /-- It begins to fetch because it was asked. -/
  | fetchAsked
  /-- It has fetched, and reports. -/
  | report
  /-- It ends because it was cancelled. -/
  | stop
  deriving DecidableEq, Repr

end Poller

/-- **A poller.** -/
structure Poller where
  client : Client
  backend : Backend
  phase : Poller.Phase := .waiting
  /-- Its time is up. -/
  due : Bool := false
  /-- It was asked to fetch. -/
  asked : Bool := false
  cancelled : Bool := false
  /-- Somebody hears its reports. -/
  heard : Bool := true
  /-- The reports that were heard, oldest first. -/
  reports : List PollEvent := []

/-- The report of a fetch. -/
def PollEvent.ofResult : Except ClientError Index → PollEvent
  | .ok index => .updated index
  | .error e => .failed e

/-- **The report of a client's fetch from a backend.** There is none when no reply ever comes and no limits end the wait. -/
def Client.report? (c : Client) (b : Backend) : Option PollEvent :=
  match c.limits, ((c.withLimits {}).fetch.run b).1 with
  | none, .error .timeout => none
  | _, _ => some (.ofResult (c.fetch.run b).1)

namespace Poller

/-- **A poller that fetches once in each period.** There is nothing to wait for without a period, so such a poller has ended. -/
def start (client : Client) (backend : Backend) (periodMs : Nat) : Poller :=
  { client, backend, phase := if periodMs = 0 then .ended else .waiting }

/-- Begins to fetch. -/
def fetch (p : Poller) : Poller :=
  { p with
    backend := (p.client.fetch.run p.backend).2
    phase := .fetching (p.client.report? p.backend)
    due := false }

@[simp] theorem fetch_client (p : Poller) : p.fetch.client = p.client := by simp only [fetch]

@[simp] theorem fetch_backend (p : Poller) : p.fetch.backend = (p.client.fetch.run p.backend).2 := by simp only [fetch]

@[simp] theorem fetch_phase (p : Poller) : p.fetch.phase = .fetching (p.client.report? p.backend) := by simp only [fetch]

@[simp] theorem fetch_due (p : Poller) : p.fetch.due = false := by simp only [fetch]

@[simp] theorem fetch_asked (p : Poller) : p.fetch.asked = p.asked := by simp only [fetch]

@[simp] theorem fetch_cancelled (p : Poller) : p.fetch.cancelled = p.cancelled := by simp only [fetch]

@[simp] theorem fetch_heard (p : Poller) : p.fetch.heard = p.heard := by simp only [fetch]

@[simp] theorem fetch_reports (p : Poller) : p.fetch.reports = p.reports := by simp only [fetch]

/-- **A move**, if it is possible. -/
def move? (p : Poller) : Move → Option Poller
  | .tick => some { p with due := true }
  | .refresh => some { p with asked := true }
  | .cancel => some { p with cancelled := true }
  | .leave => some { p with heard := false }
  | .fetchDue =>
    match p.phase with
    | .waiting => if p.due then some p.fetch else none
    | _ => none
  | .fetchAsked =>
    match p.phase with
    | .waiting => if p.asked then some { p.fetch with asked := false } else none
    | _ => none
  | .report =>
    match p.phase with
    | .fetching (some report) =>
      some (if p.heard then { p with phase := .waiting, reports := p.reports ++ [report] } else { p with phase := .ended })
    | _ => none
  | .stop =>
    match p.phase with
    | .ended => none
    | _ => if p.cancelled then some { p with phase := .ended } else none

/-- **Moves, one after another**, if they are possible. -/
def moves? (p : Poller) (moves : List Move) : Option Poller := moves.foldlM move? p

/-- **The next report**, waiting for the poller's time if need be; there is none from a poller that ends. -/
def next (p : Poller) : Option PollEvent × Poller :=
  let moves : List Move :=
    if p.cancelled then [.stop] else if p.asked then [.fetchAsked, .report] else [.tick, .fetchDue, .report]
  let after := (p.moves? moves).getD p
  (after.reports[p.reports.length]?, after)

end Poller

/-- **What comes of an effect of a session.** -/
def Client.perform (c : Client) : Effect → Dialogue Event
  | .send id command => do
    match ← c.execute command with
    | .ok () => return .finished id none
    | .error e => return .finished id (some e)
  | .poll => return .poll (.ofResult (← c.fetch))

end DeployBoard
