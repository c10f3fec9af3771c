import DeployBoard.Proofs.Dashboard.Tags
import DeployBoard.Proofs.View

/-!
# `Proofs.Session.Escape` — two escapes and what comes in between

While searching, Escape has two uses: it hides the popup, and where that is hidden it empties the search. Pressed twice
it should do the one and then the other. But events may come in between, and every poll, a failed one too, finds the
suggestions again and with them shows the popup; the second Escape then hides it once more, and the query stays.

`Waited` says what any events leave: the query and the box as they were, and the popup as the last poll found it, if
there was one. `escapes_clear_iff` tells from it exactly when the two escapes leave nothing searched for, and
`not_escapes_clear` is a run after which they do not.
-/

namespace DeployBoard

/-- Something a poll has brought, be it an index or an error. -/
def Event.isPoll : Event → Bool
  | .poll _ => true
  | .finished _ _ => false

namespace Session

/-- Handles events that come at various times, in their order. -/
def handleAll (s : Session) (events : List (String × Event)) : Session := events.foldl (fun s e => s.handle e.1 e.2) s

/-- **There is something to suggest** for what is typed into the search box. -/
def offers (s : Session) : Bool :=
  !Text.isBlankText s.searchBox.text &&
    !(suggest s.dashboard.searchTerms s.searchBox.text s.dashboard.query.chosen maxSuggestions).isEmpty

variable {s t : Session} {k : KeyPress} {polled : Bool}

/-- Suggestions that have just been found are shown if there are any. -/
theorem refreshCompletion_visible (hmode : s.mode = .search) : s.refreshCompletion.completion.visible = s.offers := by
  unfold refreshCompletion offers
  rw [hmode]
  simp only
  rw [Completion.update_visible]
  cases hblank : Text.isBlankText s.searchBox.text with
  | true => rw [Completion.update_blank hblank]; rfl
  | false => rw [Completion.update_items hblank]; rfl

/-! ## Waiting -/

/-- **What events leave** of the search of `s`: the box and the query as they were, and the popup as it was, or as the
    last of the polls found it. -/
structure Waited (s t : Session) (polled : Bool) : Prop where
  board : Dashboard.Reachable t.dashboard
  mode : t.mode = .search
  box : t.searchBox = s.searchBox
  query : t.dashboard.query = s.dashboard.query
  visible : t.completion.visible = if polled then t.offers else s.completion.visible

theorem waited_start (hboard : Dashboard.Reachable s.dashboard) (hmode : s.mode = .search) : Waited s s false :=
  ⟨hboard, hmode, rfl, rfl, rfl⟩

/-- After a poll the popup is as the poll found it, whatever it was before. -/
theorem Waited.poll (h : Waited s t polled) (now : String) (p : PollEvent) :
    Waited s (t.handle now (.poll p)) true := by
  constructor
  case board => exact h.board.step (.poll now p)
  case mode => exact h.mode
  case box => exact h.box
  case query => exact (t.dashboard.step_query (.poll now p)).trans h.query
  case visible => exact refreshCompletion_visible (s := { t with dashboard := t.dashboard.handlePoll now p }) h.mode

theorem offers_congr (hbox : t.searchBox = s.searchBox)
    (hterms : t.dashboard.searchTerms = s.dashboard.searchTerms) (hquery : t.dashboard.query = s.dashboard.query) :
    t.offers = s.offers := by
  unfold offers
  rw [hbox, hterms, hquery]

/-- The end of a command has nothing to do with the popup, and leaves what there is to suggest. -/
theorem Waited.finished (h : Waited s t polled) (now : String) (id : Nat) (error : Option ClientError) :
    Waited s (t.handle now (.finished id error)) polled := by
  have hterms : (t.dashboard.step (.finish id error)).searchTerms = t.dashboard.searchTerms :=
    Dashboard.searchTerms_step h.board.sameTags rfl
  have hquery : (t.dashboard.step (.finish id error)).query = t.dashboard.query :=
    t.dashboard.step_query (.finish id error)
  obtain ⟨outbox, heq⟩ := t.handle_finished now id error
  have hoffers : Session.offers { t with dashboard := t.dashboard.step (.finish id error), outbox, dirty := true } =
      t.offers := offers_congr rfl hterms hquery
  rw [heq]
  constructor
  case board => exact h.board.step (.finish id error)
  case mode => exact h.mode
  case box => exact h.box
  case query => exact hquery.trans h.query
  case visible =>
    rw [hoffers]
    exact h.visible

/-- **Any events**, one by one. -/
theorem Waited.handleAll (h : Waited s t polled) (events : List (String × Event)) :
    Waited s (t.handleAll events) (polled || events.any (·.2.isPoll)) := by
  induction events generalizing t polled with
  | nil =>
      rw [List.any_nil, Bool.or_false]
      exact h
  | cons e events ih =>
      obtain ⟨now, event⟩ := e
      rw [List.any_cons, ← Bool.or_assoc]
      apply ih
      cases event with
      | poll p =>
          show Waited s (t.handle now (.poll p)) (polled || true)
          rw [Bool.or_true]
          exact h.poll now p
      | finished id error =>
          show Waited s (t.handle now (.finished id error)) (polled || false)
          rw [Bool.or_false]
          exact h.finished now id error

/-! ## Escape -/

theorem press_escape (hmode : s.mode = .search) (hkey : k.key = .escape) : s.press k = s.escapeSearch := by
  unfold press KeyPress.quits pressSearch
  simp [hkey, hmode]

/-- **Escape with the popup open** hides it. -/
theorem escapeSearch_of_visible (h : s.completion.visible = true) : s.escapeSearch = { s with completion := {} } := by
  unfold escapeSearch
  rw [if_pos h]
  rfl

/-- **Escape without the popup** empties the query. -/
theorem escapeSearch_of_hidden (h : s.completion.visible = false) :
    s.escapeSearch.dashboard.query = {} ∧ s.escapeSearch.completion.visible = false := by
  have hnot : ¬ s.completion.visible = true := by
    rw [h]
    exact Bool.false_ne_true
  unfold escapeSearch
  rw [if_neg hnot]
  exact ⟨s.dashboard.step_query .clearQuery, h⟩

/-- After Escape the popup is hidden. -/
theorem escapeSearch_visible (s : Session) : s.escapeSearch.completion.visible = false := by
  cases h : s.completion.visible with
  | true => rw [escapeSearch_of_visible h]
  | false => exact (escapeSearch_of_hidden h).2

theorem escapeSearch_mode (s : Session) : s.escapeSearch.mode = s.mode := by
  unfold escapeSearch
  split <;> rfl

/-- **When two escapes clear the search.** In every state that a session can come into, while searching: after
    Escape, any events and Escape again the popup is hidden. And nothing is searched for, unless something was, the
    first Escape found the popup open, a poll was among the events, and it found something to suggest. -/
theorem escapes_clear_iff (hs : s.Reachable) (hmode : s.mode = .search) (k k' : KeyPress) (hkey : k.key = .escape)
    (hkey' : k'.key = .escape) (events : List (String × Event)) :
    (((s.press k).handleAll events).press k').completion.visible = false ∧
      ((((s.press k).handleAll events).press k').dashboard.query = {} ↔
        s.dashboard.query = {} ∨
          ¬ (s.completion.visible = true ∧ events.any (·.2.isPoll) = true ∧
            ((s.press k).handleAll events).offers = true)) := by
  rw [press_escape hmode hkey]
  have hboard : Dashboard.Reachable s.escapeSearch.dashboard := hs.dashboard.trans (leads_escapeSearch s)
  have hwaited := (waited_start hboard ((escapeSearch_mode s).trans hmode)).handleAll events
  rw [Bool.false_or] at hwaited
  generalize s.escapeSearch.handleAll events = t at hwaited ⊢
  rw [press_escape hwaited.mode hkey']
  refine ⟨escapeSearch_visible t, ?_⟩
  have hshown := hwaited.visible
  rw [escapeSearch_visible] at hshown
  cases hopen : s.completion.visible with
  | false =>
      -- The first Escape has emptied the query, and nothing fills it again.
      have hempty : t.dashboard.query = {} := hwaited.query.trans (escapeSearch_of_hidden hopen).1
      have hcleared : t.escapeSearch.dashboard.query = {} := by
        cases hagain : t.completion.visible with
        | true => rw [escapeSearch_of_visible hagain]; exact hempty
        | false => exact (escapeSearch_of_hidden hagain).1
      simp [hcleared]
  | true =>
      have hkept : t.dashboard.query = s.dashboard.query := by
        rw [hwaited.query, escapeSearch_of_visible hopen]
      cases hagain : t.completion.visible with
      | true =>
          -- The popup is open again: some poll has found something to suggest.
          rw [hagain] at hshown
          have hpolled : events.any (·.2.isPoll) = true ∧ t.offers = true := by
            by_cases hpoll : events.any (·.2.isPoll) = true
            · rw [if_pos hpoll] at hshown
              exact ⟨hpoll, hshown.symm⟩
            · rw [if_neg hpoll] at hshown
              cases hshown
          rw [escapeSearch_of_visible hagain]
          simp [hkept, hpolled]
      | false =>
          rw [hagain] at hshown
          have hquiet : ¬ (events.any (·.2.isPoll) = true ∧ t.offers = true) := by
            rintro ⟨hpoll, hoffers⟩
            rw [if_pos hpoll, hoffers] at hshown
            cases hshown
          simp only [(escapeSearch_of_hidden hagain).1, true_and, true_iff]
          exact .inr hquiet

/-- Two escapes after "a" was typed: a poll in between shows nothing again, as it leaves no repository. -/
theorem escapes_clear_after_empty_poll :
    ((((sampleSession.press { key := .char 'a' }).press { key := .escape }).handleAll
        [("12:00:05", .poll (.updated ∅))]).press { key := .escape }).completion.visible = false ∧
      ((((sampleSession.press { key := .char 'a' }).press { key := .escape }).handleAll
        [("12:00:05", .poll (.updated ∅))]).press { key := .escape }).dashboard.query = {} := by
  have htyped : Reachable (sampleSession.press { key := .char 'a' }) :=
    sampleSession_reachable.step (.key { key := .char 'a' })
  have hclear := escapes_clear_iff htyped (by decide) { key := .escape } { key := .escape } rfl rfl
    [("12:00:05", .poll (.updated ∅))]
  refine ⟨hclear.1, hclear.2.mpr (.inr ?_)⟩
  rintro ⟨_, _, hoffers⟩
  exact absurd hoffers (by decide)

/-- **A poll between the two escapes can keep the query**, even one that failed: it shows the popup again, and that is
    what the second Escape hides. -/
theorem not_escapes_clear :
    ¬ ∀ s : Session, s.Reachable → s.mode = .search → ∀ events : List (String × Event),
      (((s.press { key := .escape }).handleAll events).press { key := .escape }).dashboard.query = {} := by
  intro h
  have htyped : Reachable (sampleSession.press { key := .char 'a' }) :=
    sampleSession_reachable.step (.key { key := .char 'a' })
  have hempty := h _ htyped (by decide) [("12:00:05", .poll (.failed .network))]
  exact absurd hempty (by decide)

end Session
end DeployBoard
