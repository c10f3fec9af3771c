import DeployBoard.Http.Message

/-!
# `Http.Backend` — dialogues, and a backend as a script

What a client does is a `Dialogue`: it sends a request, learns what became of it, and goes on. A backend is what it does with the
next requests and with all later ones, and the requests that it has seen. `Dialogue.run` leads a dialogue with a
backend; a program leads the same dialogue over a network.
-/

namespace DeployBoard.Http

/-! ## Dialogues -/

/-- **A dialogue**: its result, or a request and how the dialogue goes on. -/
inductive Dialogue (α : Type) where
  | done (result : α)
  | ask (request : Request) (next : Delivery → Dialogue α)

namespace Dialogue

/-- **One dialogue after another.** -/
def bind {α β : Type} : Dialogue α → (α → Dialogue β) → Dialogue β
  | .done a, f => f a
  | .ask r next, f => .ask r fun d => (next d).bind f

instance : Monad Dialogue where
  pure := .done
  bind := bind

end Dialogue

/-! ## Backends -/

/-- **A backend.** -/
structure Backend where
  /-- What becomes of the next requests. -/
  script : List Delivery := []
  /-- What becomes of all others. -/
  after : Delivery
  /-- The requests that arrived, oldest first. -/
  requests : List Request := []

namespace Backend

/-- The backend that cannot be reached. -/
def unreachable : Backend := { after := .unreachable }

/-- The backend that follows a script, and then refuses. -/
def scripted (script : List Delivery) : Backend :=
  { script, after := .reply { status := 500, body := Text.encodeUtf8 "script exhausted".toList } }

/-- **What becomes of a request.** -/
def serve (b : Backend) (r : Request) : Delivery × Backend :=
  let d := b.script.headD b.after
  (d, { b with script := b.script.tail, requests := if d = .unreachable then b.requests else b.requests ++ [r] })

end Backend

namespace Dialogue

/-- **Leads a dialogue** with a backend. -/
def run {α : Type} : Dialogue α → Backend → α × Backend
  | .done a, b => (a, b)
  | .ask r next, b => let (d, b) := b.serve r; (next d).run b

@[simp] theorem run_done {α : Type} (a : α) (b : Backend) : (Dialogue.done a).run b = (a, b) := rfl

@[simp] theorem run_pure {α : Type} (a : α) (b : Backend) : (pure a : Dialogue α).run b = (a, b) := rfl

@[simp] theorem run_ask {α : Type} (r : Request) (next : Delivery → Dialogue α) (b : Backend) :
    (Dialogue.ask r next).run b = (next (b.serve r).1).run (b.serve r).2 := rfl

/-- A dialogue goes on where the one before it left the backend. -/
@[simp] theorem run_bind {α β : Type} (x : Dialogue α) (f : α → Dialogue β) (b : Backend) :
    (x >>= f).run b = (f (x.run b).1).run (x.run b).2 := by
  show (x.bind f).run b = _
  induction x generalizing b with
  | done a => rfl
  | ask r next ih => exact ih (b.serve r).1 (b.serve r).2

end Dialogue

end DeployBoard.Http
