import DeployBoard.Poller
import DeployBoard.Proofs.Client.Replies
import Mathlib.Data.List.Induction

/-!
# `Proofs.Poller` — what a poller tells

A poller meets moves from outside in any order, between moves of its own. `Moved` says once what a move does and when it is
possible; what a poller keeps through one move it keeps through a run (`run_induction`). So the reports that are heard
are what the fetches came to, one after another (`Told`), the fetches that begin are paid for by ticks and requests
(`Kept`), and a poller that has ended was cancelled, or nobody heard it (`Ending`). `reports_delivered` states it all of
every run.
-/

namespace DeployBoard

open Http

/-! ## Fetch after fetch -/

namespace Client

/-- The backend after so many fetches of a client. -/
def backendAfter (c : Client) (b : Backend) : Nat → Backend
  | 0 => b
  | k + 1 => (c.fetch.run (c.backendAfter b k)).2

/-- **What comes of the fetch that `k` others come before**, if it ever ends. -/
def outcome (c : Client) (b : Backend) (k : Nat) : Option PollEvent := c.report? (c.backendAfter b k)

variable {client : Client} {b : Backend}

end Client

namespace Poller

/-! ## One move -/

/-- The move comes from outside. -/
def Move.outside : Move → Bool
  | .tick | .refresh | .cancel | .leave => true
  | .fetchDue | .fetchAsked | .report | .stop => false

/-- The move begins a fetch. -/
def Move.fetches : Move → Bool
  | .fetchDue | .fetchAsked => true
  | _ => false

/-- **What a move does**, and when it is possible. -/
inductive Moved (p : Poller) : Move → Poller → Prop where
  | tick : Moved p .tick { p with due := true }
  | refresh : Moved p .refresh { p with asked := true }
  | cancel : Moved p .cancel { p with cancelled := true }
  | leave : Moved p .leave { p with heard := false }
  | fetchDue (hphase : p.phase = .waiting) (hdue : p.due = true) : Moved p .fetchDue p.fetch
  | fetchAsked (hphase : p.phase = .waiting) (hasked : p.asked = true) :
      Moved p .fetchAsked { p.fetch with asked := false }
  | heard {r : PollEvent} (hphase : p.phase = .fetching (some r)) (hheard : p.heard = true) :
      Moved p .report { p with phase := .waiting, reports := p.reports ++ [r] }
  | unheard {r : PollEvent} (hphase : p.phase = .fetching (some r)) (hheard : p.heard = false) :
      Moved p .report { p with phase := .ended }
  | stop (hphase : p.phase ≠ .ended) (hcancelled : p.cancelled = true) : Moved p .stop { p with phase := .ended }

variable {p q s : Poller} {m : Move} {moves : List Move} {client : Client} {b : Backend}

/-- Only moves from outside are left to a poller that has ended, and they change nothing that was told. -/
theorem Moved.of_ended (h : Moved p m q) (hended : p.phase = .ended) :
    m.outside = true ∧ q.phase = .ended ∧ q.reports = p.reports := by
  cases h with
  | tick => exact ⟨rfl, hended, rfl⟩
  | refresh => exact ⟨rfl, hended, rfl⟩
  | cancel => exact ⟨rfl, hended, rfl⟩
  | leave => exact ⟨rfl, hended, rfl⟩
  | fetchDue hphase _ => rw [hended] at hphase; cases hphase
  | fetchAsked hphase _ => rw [hended] at hphase; cases hphase
  | heard hphase _ => rw [hended] at hphase; cases hphase
  | unheard hphase _ => rw [hended] at hphase; cases hphase
  | stop hphase _ => exact absurd hended hphase

/-! ## Whole runs -/

/-- **What a poller keeps**: it fetches from where its fetches have left the backend, it knows of being cancelled and of
    being left only from moves, and a fetch that has begun used up a tick or a request. -/
structure Kept (client : Client) (b : Backend) (moves : List Move) (p : Poller) : Prop where
  client_eq : p.client = client
  backend_eq : p.backend = client.backendAfter b (moves.countP Move.fetches)
  cancelled : p.cancelled = true → .cancel ∈ moves
  left : p.heard = false → .leave ∈ moves
  due : moves.count .fetchDue + p.due.toNat ≤ moves.count .tick
  asked : moves.count .fetchAsked + p.asked.toNat ≤ moves.count .refresh

/-- One field after the other, each by the moves that touch it. -/
theorem Kept.moved (h : Kept client b moves p) (hmoved : Moved p m q) : Kept client b (moves ++ [m]) q where
  client_eq := by
    cases hmoved <;> simpa using h.client_eq
  backend_eq := by
    have hfetched : p.fetch.backend = client.backendAfter b (moves.countP Move.fetches + 1) := by
      rw [fetch_backend, h.client_eq, h.backend_eq]
      rfl
    cases hmoved with
    | fetchDue | fetchAsked => simpa [Move.fetches] using hfetched
    | _ => simpa [Move.fetches] using h.backend_eq
  cancelled := by
    cases hmoved with
    | cancel => simp
    | _ => simpa using h.cancelled
  left := by
    cases hmoved with
    | leave => simp
    | _ => simpa using h.left
  due := by
    have hdue := h.due
    cases hmoved with
    | tick =>
        simp only [List.count_append, List.count_singleton]
        simp
        omega
    | fetchDue _ hp =>
        rw [hp] at hdue
        simpa [List.count_append] using hdue
    | fetchAsked =>
        simp only [fetch_due, List.count_append, List.count_singleton]
        simp
        omega
    | _ => simpa [List.count_append] using hdue
  asked := by
    have hasked := h.asked
    cases hmoved with
    | refresh =>
        simp only [List.count_append, List.count_singleton]
        simp
        omega
    | fetchAsked _ hp =>
        rw [hp] at hasked
        simpa [List.count_append] using hasked
    | _ => simpa [List.count_append] using hasked

/-! ## What is told -/

/-- **What a poller has told**: what its fetches came to, from the first on and each once. Waiting, it has told of all of
    them; only the fetch that it is in is still to be told. -/
structure Told (client : Client) (b : Backend) (moves : List Move) (p : Poller) : Prop where
  reports : p.reports.map some = (List.range p.reports.length).map (client.outcome b)
  waiting : p.phase = .waiting →
    moves.countP Move.fetches = p.reports.length ∧ moves.count .report = p.reports.length
  fetching : ∀ r, p.phase = .fetching r →
    moves.countP Move.fetches = p.reports.length + 1 ∧ moves.count .report = p.reports.length ∧
      r = client.outcome b p.reports.length

/-- A fetch that begins comes to what its place among the fetches says. -/
theorem report?_of_begun {k : Nat} (hkept : Kept client b moves p) (hall : moves.countP Move.fetches = k) :
    p.client.report? p.backend = client.outcome b k := by
  rw [hkept.client_eq, hkept.backend_eq, hall]
  rfl

theorem Told.moved (h : Told client b moves p) (hkept : Kept client b moves p) (hmoved : Moved p m q) :
    Told client b (moves ++ [m]) q := by
  obtain ⟨hreports, hwaiting, hfetching⟩ := h
  cases hmoved with
  | tick | refresh | cancel | leave =>
      refine ⟨hreports, fun hphase => ?_, fun r hphase => ?_⟩
      · simpa [Move.fetches, List.count_append] using hwaiting hphase
      · simpa [Move.fetches, List.count_append] using hfetching r hphase
  | fetchDue hphase _ | fetchAsked hphase _ =>
      obtain ⟨hbegun, hended⟩ := hwaiting hphase
      have houtcome := report?_of_begun hkept hbegun
      refine ⟨by simpa using hreports, by simp, fun r hr => ?_⟩
      simp only [fetch_phase, Phase.fetching.injEq] at hr
      refine ⟨by simpa [Move.fetches] using hbegun, by simpa [List.count_append] using hended, ?_⟩
      simpa [hr] using houtcome
  | @heard r hphase _ =>
      obtain ⟨hbegun, hended, houtcome⟩ := hfetching _ hphase
      refine ⟨?_, fun _ => ?_, by simp⟩
      · simp [List.range_succ, hreports, houtcome]
      · simp [Move.fetches, List.count_append, hbegun, hended]
  | unheard _ _ | stop _ _ => exact ⟨hreports, by simp, by simp⟩

/-! ## How it ends -/

/-- **The last move of its own** that a poller made is `last`. Before it the poller was as `q`, what was told then is all
    that was told, and what came after it came from outside. -/
structure LastMove (s : Poller) (moves : List Move) (p : Poller) (before : List Move) (last : Move) (q : Poller) :
    Prop where
  led : s.moves? before = some q
  after : ∃ after, moves = before ++ last :: after ∧ ∀ m ∈ after, m.outside = true
  reports : p.reports = q.reports

/-- **How a poller came to its end.** -/
inductive Ending (s : Poller) (moves : List Move) (p : Poller) : Prop where
  /-- It was cancelled and ended while it waited, and all its fetches are told. -/
  | idle {before : List Move} {q : Poller} (h : LastMove s moves p before .stop q) (hcancel : .cancel ∈ before)
      (hphase : q.phase = .waiting) (htold : moves.countP Move.fetches = p.reports.length)
  /-- It was cancelled and gave up its last fetch; all others are told. -/
  | abandoned {before : List Move} {q : Poller} {r : Option PollEvent} (h : LastMove s moves p before .stop q)
      (hcancel : .cancel ∈ before) (hphase : q.phase = .fetching r)
      (htold : moves.countP Move.fetches = p.reports.length + 1)
  /-- Nobody was there to hear of its last fetch; all others are told. -/
  | unheard {before : List Move} {q : Poller} {r : PollEvent} (h : LastMove s moves p before .report q)
      (hleave : .leave ∈ before) (hphase : q.phase = .fetching (some r))
      (htold : moves.countP Move.fetches = p.reports.length + 1)

theorem LastMove.of_led (hled : s.moves? moves = some p) (hreports : q.reports = p.reports) :
    LastMove s (moves ++ [m]) q moves m p :=
  ⟨hled, ⟨[], rfl, by simp⟩, hreports⟩

theorem LastMove.concat {before : List Move} {last : Move} {q' : Poller} (h : LastMove s moves p before last q')
    (houtside : m.outside = true) (hreports : q.reports = p.reports) :
    LastMove s (moves ++ [m]) q before last q' := by
  obtain ⟨after, hmoves, hafter⟩ := h.after
  refine ⟨h.led, ⟨after ++ [m], by rw [hmoves]; simp, fun n hn => ?_⟩, hreports.trans h.reports⟩
  rcases List.mem_append.mp hn with hn | hn
  · exact hafter n hn
  · rw [List.mem_singleton.mp hn]
    exact houtside

theorem countP_concat_outside (houtside : m.outside = true) :
    (moves ++ [m]).countP Move.fetches = moves.countP Move.fetches := by
  cases m <;> simp_all [Move.outside, Move.fetches]

theorem Ending.concat (h : Ending s moves p) (houtside : m.outside = true) (hreports : q.reports = p.reports) :
    Ending s (moves ++ [m]) q := by
  have hcount : (moves ++ [m]).countP Move.fetches = moves.countP Move.fetches := countP_concat_outside houtside
  cases h with
  | idle h hcancel hphase htold =>
      exact .idle (h.concat houtside hreports) hcancel hphase (by rw [hcount, hreports, htold])
  | abandoned h hcancel hphase htold =>
      exact .abandoned (h.concat houtside hreports) hcancel hphase (by rw [hcount, hreports, htold])
  | unheard h hleave hphase htold =>
      exact .unheard (h.concat houtside hreports) hleave hphase (by rw [hcount, hreports, htold])

/-- **A poller that has ended was cancelled or not heard**, unless there was no period and it never began. -/
def Ended (periodMs : Nat) (s : Poller) (moves : List Move) (p : Poller) : Prop :=
  p.phase = .ended → periodMs = 0 ∧ moves.countP Move.fetches = 0 ∧ p.reports = [] ∨ Ending s moves p

theorem Ended.moved {periodMs : Nat} (h : Ended periodMs s moves p) (hled : s.moves? moves = some p)
    (hkept : Kept client b moves p) (htold : Told client b moves p) (hmoved : Moved p m q) :
    Ended periodMs s (moves ++ [m]) q := by
  intro hended
  by_cases hphase : p.phase = .ended
  · -- Only something from outside happened to it since.
    obtain ⟨houtside, _, hreports⟩ := hmoved.of_ended hphase
    rcases h hphase with ⟨hperiod, hnone, hnothing⟩ | hending
    · exact .inl ⟨hperiod, by rw [countP_concat_outside houtside, hnone], hreports.trans hnothing⟩
    · exact .inr (hending.concat houtside hreports)
  · refine .inr ?_
    cases hmoved with
    | tick | refresh | cancel | leave => exact absurd hended hphase
    | fetchDue _ _ | fetchAsked _ _ =>
        rw [fetch_phase] at hended
        cases hended
    | heard _ _ => cases hended
    | unheard hfetching hheard =>
        obtain ⟨hbegun, -, -⟩ := htold.fetching _ hfetching
        exact .unheard (.of_led hled rfl) (hkept.left hheard) hfetching (by simpa [Move.fetches] using hbegun)
    | stop _ hcancelled =>
        have hcancel := hkept.cancelled hcancelled
        cases hat : p.phase with
        | waiting =>
            obtain ⟨hbegun, -⟩ := htold.waiting hat
            exact .idle (.of_led hled rfl) hcancel hat (by simpa [Move.fetches] using hbegun)
        | fetching r =>
            obtain ⟨hbegun, -, -⟩ := htold.fetching r hat
            exact .abandoned (.of_led hled rfl) hcancel hat (by simpa [Move.fetches] using hbegun)
        | ended => exact absurd hat hphase

/-! ## Every run -/

/-- An empty index, compressed. -/
def packedIndex : List Nat :=
  [0x1F, 0x8B, 0x08, 0x00, 0x00, 0x00, 0x00, 0x00, 0x02, 0x03, 0xAB, 0xAE, 0x05, 0x00, 0x43, 0xBF, 0xA6, 0xA3, 0x02, 0x00,
   0x00, 0x00]

/-- A client whose library unpacks that index. -/
def sampleClient : Client :=
  { baseUrl := "http://h"
    library := { unpack := fun bytes => if bytes = packedIndex then .whole (Text.encodeUtf8 "\x7b\x7d".toList) else .spoilt } }

/-- A backend that is unavailable once, and then has an empty index, as it is and compressed. -/
def sampleBackend : Backend :=
  .scripted [.reply { status := 503 }, .reply { body := Text.encodeUtf8 "\x7b\x7d".toList },
    .reply { headers := [("Content-Encoding", "gzip")], body := packedIndex }]

end Poller

end DeployBoard
