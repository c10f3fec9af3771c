import DeployBoard.Proofs.Completion
import DeployBoard.Proofs.Dashboard.Step
import DeployBoard.Session.Keys
import DeployBoard.Session.View

/-!
# `Proofs.Session.Run` — the interactive board as a machine

A session changes by **moves**: keys, events from outside, the work of its outbox, drawing, and being
connected. Whatever a move does to the dashboard inside the session, it does by the dashboard's own operations
(`leads_step`), so what every run of operations keeps, every session keeps (`leads_run`).
-/

namespace DeployBoard
namespace Session

open Dashboard (Leads)

/-- **What can happen to a session.** -/
inductive Move where
  | connect
  | startPolling
  | stopPolling
  | key (k : KeyPress)
  | event (now : String) (event : Event)
  /-- The oldest `n` effects of the outbox are taken to be carried out. -/
  | take (n : Nat)
  | draw (width height : Nat)

/-- The session after one move. A screen whose geometry overflows is not drawn. -/
def step (s : Session) : Move → Session
  | .connect => s.connect
  | .startPolling => s.startPolling
  | .stopPolling => s.stopPolling
  | .key k => s.press k
  | .event now event => s.handle now event
  | .take n => { s with outbox := s.outbox.drop n }
  | .draw width height =>
    match s.draw width height with
    | .ok (_, drawn) => { drawn with dirty := false }
    | .error _ => s

/-- The session after moves, in their order. -/
def run (s : Session) (moves : List Move) : Session := moves.foldl step s

/-! ## What submitting a command does to the dashboard -/

/-- A submitted command is a command begun. -/
theorem submit_dashboard (s : Session) (c : Command) :
    (s.submit c).dashboard = s.dashboard.step (.begin c) := by
  unfold submit Dashboard.step
  cases h : s.dashboard.index.get? c.repo with
  | none => simp [Dashboard.beginCommand, h]
  | some previous =>
      simp only [Dashboard.beginCommand, h]
      split <;> rfl

/-- Besides the dashboard, a submitted command concerns what is to be done outside and to be drawn. -/
theorem submitSome_eq (s : Session) (c : Option Command) :
    ∃ dashboard outbox dirty, s.submitSome c = { s with dashboard, outbox, dirty } := by
  unfold submitSome submit
  split
  · exact ⟨s.dashboard, s.outbox, s.dirty, rfl⟩
  · split
    · exact ⟨s.dashboard, s.outbox, s.dirty, rfl⟩
    · simp only
      split
      · exact ⟨_, _, true, rfl⟩
      · exact ⟨_, s.outbox, true, rfl⟩

theorem leads_submitSome (s : Session) (c : Option Command) :
    Leads s.dashboard (s.submitSome c).dashboard := by
  cases c with
  | none => exact Leads.refl _
  | some c =>
      show Leads s.dashboard (s.submit c).dashboard
      rw [submit_dashboard]
      exact Dashboard.leads_step _ _

/-- To refresh is to ask for something to be done. -/
theorem refresh_eq (s : Session) : ∃ outbox, s.refresh = { s with outbox } := by
  unfold refresh
  split
  · exact ⟨_, rfl⟩
  · exact ⟨s.outbox, rfl⟩

theorem refresh_dashboard (s : Session) : s.refresh.dashboard = s.dashboard := by
  obtain ⟨outbox, heq⟩ := s.refresh_eq
  rw [heq]

/-! ## Keys while searching -/

theorem leads_escapeSearch (s : Session) : Leads s.dashboard s.escapeSearch.dashboard := by
  unfold escapeSearch
  split
  · exact Leads.refl _
  · exact Dashboard.leads_step _ .clearQuery

/-- Taking a typed term empties the text of the query. -/
theorem leads_takeTyped (s : Session) (d : Dashboard) : Leads d (s.takeTyped d).dashboard :=
  Dashboard.leads_step d (.setFreeText "")

theorem leads_acceptSuggestion (s : Session) : Leads s.dashboard s.acceptSuggestion.dashboard := by
  unfold acceptSuggestion
  split
  · rename_i term _
    exact (Dashboard.leads_step _ (.addTerm term)).trans (leads_takeTyped s _)
  · split
    rename_i dashboard removed hremove
    split
    · have hstep : s.dashboard.step (.removeTerm s.searchBox.text) = dashboard := congrArg Prod.fst hremove
      rw [← hstep]
      exact (Dashboard.leads_step _ _).trans (leads_takeTyped s _)
    · exact Leads.refl _

theorem openPicker_dashboard (s : Session) : s.openPicker.dashboard = s.dashboard := by
  unfold openPicker
  split <;> rfl

theorem leads_typeSearch (s : Session) (k : KeyPress) : Leads s.dashboard (s.typeSearch k).dashboard :=
  Dashboard.leads_step _ (.setFreeText (s.searchBox.press k).text)

/-- **What a key does while searching.** Besides submitting, taking a term and typing it brings no index, and leaves
    the query unless the search box is empty. -/
inductive Searched (s : Session) (k : KeyPress) : Session → Prop where
  | submitted (c : Option Command) : Searched s k (s.submitSome c)
  | opened : Searched s k s.openPicker
  | browsed (completion : Completion) (hbrowsed : s.completion.Browsed completion) :
      Searched s k { s with completion }
  | operated (op : Dashboard.Operation) (hop : op.bringsIndex = false)
      (hquery : op.queryOf? s.dashboard = none ∨ s.searchBox.text = "") :
      Searched s k { s with dashboard := s.dashboard.step op }
  | refreshed : Searched s k s.refresh
  | accepted : Searched s k s.acceptSuggestion
  | escaped : Searched s k s.escapeSearch
  | typed : Searched s k (s.typeSearch k)

theorem searched_searchShortcut {s t : Session} {k : KeyPress} {c : Char} (h : s.searchShortcut? c = some t) :
    Searched s k t := by
  unfold searchShortcut? at h
  split at h
  · cases h; exact .submitted _
  · cases h; exact .submitted _
  · cases h; exact .opened
  · cases h; exact .browsed _ (.inl rfl)
  · cases h; exact .browsed _ (.inr rfl)
  · cases h

/-- **Every key does one of these.** -/
theorem searched_pressSearch (s : Session) (k : KeyPress) : Searched s k (s.pressSearch k) := by
  unfold pressSearch
  cases k.key with
  | char c =>
      show Searched s k (if k.ctrl then (s.searchShortcut? c).getD (s.typeSearch k) else s.typeSearch k)
      split
      · cases hshort : s.searchShortcut? c with
        | none => exact .typed
        | some t => exact searched_searchShortcut hshort
      · exact .typed
  | enter => exact .submitted s.dashboard.deployCommand?
  | tab => exact .accepted
  | escape => exact .escaped
  | backspace =>
      show Searched s k (if s.searchBox.text = "" then { s with dashboard := s.dashboard.popTerm.1 }
        else s.typeSearch k)
      split
      · rename_i hempty
        exact .operated .popTerm rfl (.inr hempty)
      · exact .typed
  | up => exact .operated (.moveCursor (-1)) rfl (.inl rfl)
  | down => exact .operated (.moveCursor 1) rfl (.inl rfl)
  | pageUp => exact .operated (.moveCursor (-pageRows)) rfl (.inl rfl)
  | pageDown => exact .operated (.moveCursor pageRows) rfl (.inl rfl)
  | left => exact .operated (.cycleTag (-1)) rfl (.inl rfl)
  | right => exact .operated (.cycleTag 1) rfl (.inl rfl)
  | function n =>
      match n with
      | 5 => exact .refreshed
      | 0 | 1 | 2 | 3 | 4 => exact .typed
      | _ + 6 => exact .typed
  | delete => exact .typed
  | home => exact .typed
  | «end» => exact .typed
  | other => exact .typed

theorem Searched.leads {s t : Session} {k : KeyPress} (h : Searched s k t) : Leads s.dashboard t.dashboard := by
  cases h with
  | submitted c => exact leads_submitSome s c
  | opened => rw [openPicker_dashboard]; exact Leads.refl _
  | browsed => exact Leads.refl _
  | operated op => exact Dashboard.leads_step _ op
  | refreshed => rw [refresh_dashboard]; exact Leads.refl _
  | accepted => exact leads_acceptSuggestion s
  | escaped => exact leads_escapeSearch s
  | typed => exact leads_typeSearch s k

/-! ## Keys while a tag picker is open -/

theorem leads_choosePicked (s : Session) (repo : String) :
    Leads s.dashboard (s.choosePicked repo).dashboard := by
  unfold choosePicked
  simp only
  split
  · rename_i tag _
    exact Dashboard.leads_step _ (.selectTag repo tag)
  · exact Leads.refl _

theorem leads_pressPicker (s : Session) (repo : String) (k : KeyPress) :
    Leads s.dashboard (s.pressPicker repo k).dashboard := by
  unfold pressPicker
  split
  · exact Leads.refl _
  · exact Leads.refl _
  · exact Leads.refl _
  · exact leads_choosePicked s repo
  · exact leads_choosePicked s repo
  · exact Dashboard.leads_step _ (.setTagInput repo (s.tagBox.press k).text)

/-! ## Every move -/

theorem leads_press (s : Session) (k : KeyPress) : Leads s.dashboard (s.press k).dashboard := by
  unfold press
  split
  · exact Leads.refl _
  · split
    · exact (searched_pressSearch s k).leads
    · exact leads_pressPicker s _ k

/-- What an event is for the dashboard, at the time `now`. -/
def operationOf (now : String) : Event → Dashboard.Operation
  | .poll p => .poll now p
  | .finished id error => .finish id error

/-- Besides the dashboard, the end of a command concerns the outbox alone: if it succeeded, a poll is asked for. -/
theorem handle_finished (s : Session) (now : String) (id : Nat) (error : Option ClientError) :
    ∃ outbox, s.handle now (.finished id error) =
      { s with dashboard := s.dashboard.step (.finish id error), outbox, dirty := true } := by
  unfold handle refresh
  simp only
  split
  · split
    · exact ⟨_, rfl⟩
    · exact ⟨_, rfl⟩
  · exact ⟨_, rfl⟩

/-- **An event is an operation on the dashboard.** -/
theorem handle_dashboard (s : Session) (now : String) (e : Event) :
    (s.handle now e).dashboard = s.dashboard.step (operationOf now e) := by
  cases e with
  | poll p => rfl
  | finished id error =>
      obtain ⟨outbox, heq⟩ := s.handle_finished now id error
      rw [heq]
      rfl

theorem leads_handle (s : Session) (now : String) (e : Event) :
    Leads s.dashboard (s.handle now e).dashboard := by
  rw [handle_dashboard]
  exact Dashboard.leads_step _ _

/-- Drawing remembers where the text box was seen, whether the popup is drawn or not. -/
theorem draw_eq {s drawn : Session} {width height : Nat} {canvas : Screen.Canvas}
    (h : s.draw width height = .ok (canvas, drawn)) : ∃ area, drawn = s.withActiveBox (s.activeBox.seenIn area) := by
  unfold draw at h
  simp only [bind, Except.bind, pure, Except.pure] at h
  split at h
  · split at h
    · cases h
    · exact ⟨_, (congrArg Prod.snd (Except.ok.inj h)).symm⟩
  · exact ⟨_, (congrArg Prod.snd (Except.ok.inj h)).symm⟩

/-- **Drawing changes the boxes and whether the screen is out of date**, nothing else. -/
theorem step_draw (s : Session) (width height : Nat) :
    ∃ searchBox tagBox dirty, s.step (.draw width height) = { s with searchBox, tagBox, dirty } := by
  unfold step
  simp only
  split
  · rename_i drawn hdraw
    obtain ⟨area, rfl⟩ := draw_eq hdraw
    unfold withActiveBox
    split
    · exact ⟨_, s.tagBox, false, rfl⟩
    · exact ⟨s.searchBox, _, false, rfl⟩
  · exact ⟨s.searchBox, s.tagBox, s.dirty, rfl⟩

/-- **A move acts on the dashboard by operations.** -/
theorem leads_step (s : Session) (m : Move) : Leads s.dashboard (s.step m).dashboard := by
  cases m with
  | connect => exact Leads.refl _
  | startPolling => exact Leads.refl _
  | stopPolling => exact Leads.refl _
  | key k => exact leads_press s k
  | event now e => exact leads_handle s now e
  | take n => exact Leads.refl _
  | draw width height =>
      obtain ⟨searchBox, tagBox, dirty, heq⟩ := s.step_draw width height
      rw [heq]
      exact Leads.refl _

/-- **A session acts on its dashboard by operations.** -/
theorem leads_run (s : Session) (moves : List Move) : Leads s.dashboard (s.run moves).dashboard := by
  induction moves generalizing s with
  | nil => exact Leads.refl _
  | cons m moves ih => exact (leads_step s m).trans (ih (s.step m))

/-- The last entry of a log that begins with what the first move did, if it did something. -/
theorem getLast?_toList_append {α : Type} (first : Option α) (rest : List α) :
    (first.toList ++ rest).getLast? = rest.getLast?.or first := by
  rw [List.getLast?_append]
  cases first <;> rfl

/-! ## States that a session can come into -/

/-- **A state that a session can come into**, whatever it is called, wherever its backend is, and in every theme. -/
def Reachable (s : Session) : Prop := ∃ title url theme moves, (start title url theme).run moves = s

theorem Reachable.dashboard {s : Session} (h : Reachable s) : Dashboard.Reachable s.dashboard := by
  obtain ⟨title, url, theme, moves, rfl⟩ := h
  exact leads_run (start title url theme) moves

/-- A session with a backend and two repositories, for instances of what is said of sessions. -/
def sampleSession : Session :=
  (start "board" "http://backend" "dark").run
    [.connect,
     .event "12:00:00" (.poll (.updated (Catalog.ofList
       [("api", { tags := ["v1", "v2"], pinnedTagValue := "v0", autoDeploy := true }),
        ("web", { tags := ["r-1"], pinnedTag := "r-0", pinnedTagValue := "r-0" })])))]

theorem sampleSession_reachable : Reachable sampleSession := ⟨_, _, _, _, rfl⟩

theorem Reachable.step {s : Session} (h : Reachable s) (m : Move) : Reachable (s.step m) := by
  obtain ⟨title, url, theme, moves, rfl⟩ := h
  exact ⟨title, url, theme, moves ++ [m], List.foldl_append ..⟩

/-- **What holds at the start and every move keeps, holds in every state.** -/
theorem reachable_induction {P : Session → Prop} {s : Session} (hstart : ∀ title url theme, P (start title url theme))
    (hstep : ∀ s m, Reachable s → P s → P (s.step m)) (h : Reachable s) : P s := by
  obtain ⟨title, url, theme, moves, rfl⟩ := h
  have hrun : ∀ s, Reachable s → P s → P (s.run moves) := by
    induction moves with
    | nil => exact fun _ _ hs => hs
    | cons m moves ih => exact fun s hreach hs => ih (s.step m) (hreach.step m) (hstep s m hreach hs)
  exact hrun _ ⟨title, url, theme, [], rfl⟩ (hstart title url theme)

theorem Reachable.run {s : Session} (h : Reachable s) (moves : List Move) : Reachable (s.run moves) := by
  obtain ⟨title, url, theme, before, rfl⟩ := h
  exact ⟨title, url, theme, before ++ moves, List.foldl_append ..⟩

end Session
end DeployBoard
