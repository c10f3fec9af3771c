import DeployBoard.Proofs.Dashboard.Step
import DeployBoard.Proofs.Session.Run
import DeployBoard.Proofs.TextBox.Clear

/-!
# `Proofs.Session.SearchBox` — the search box and the text of the query

The text that is searched for is kept twice: in the search box, and in the query. Typing copies it from the box, so
that after it both are the same. Escape and Tab empty the two apart from each other: the query by replacing its
text, and the box by `clearLine`, which takes no more out of it than two deletions do.

A **touch** is what a move does to the search box, if it does anything (`touch?`), and `Touched` says what each does
to both texts. So what the box and the query show after a run is told by the last touch (`shows_run`), and they
agree unless the last touch emptied a box that two deletions do not empty (`agrees_iff_last_touch`).
-/

namespace DeployBoard

/-! ## The text of the query -/

namespace Dashboard

/-- **Only edits of the text itself change the text of the query.** -/
theorem step_freeText (s : Dashboard) (op : Operation) :
    (s.step op).query.freeText =
      match op with
      | .setFreeText text => text
      | .clearQuery => ""
      | _ => s.query.freeText := by
  rw [step_query]
  cases op with
  | setFreeText text => rfl
  | addTerm term => simp only [Operation.queryOf?, Option.getD_some, Query.addTerm_freeText]
  | removeTerm term => simp only [Operation.queryOf?, Option.getD_some, Query.removeTerm_freeText]
  | popTerm => simp only [Operation.queryOf?, Option.getD_some, Query.popTerm_freeText]
  | clearQuery => rfl
  | poll | moveCursor | cycleTag | selectTag | setTagInput | begin | finish => rfl

end Dashboard

namespace Session

/-- The text of the query. -/
def freeText (s : Session) : String := s.dashboard.query.freeText

/-- **The search box shows the text of the query.** -/
def Agrees (s : Session) : Prop := s.searchBox.text = s.freeText

/-! ## Touches of the search box -/

/-- **What is done to the search box.** -/
inductive Touch where
  /-- A key has gone to it. -/
  | typed
  /-- It has been emptied; `box` is as it was before. -/
  | emptied (box : TextBox)

/-- Tab takes a term from the box: a suggestion, or a typed term that was chosen before. -/
def takesTerm (s : Session) : Bool :=
  s.completion.current?.isSome || (s.dashboard.removeTerm s.searchBox.text).2

/-- What a key does to the search box while searching. -/
def searchTouch? (s : Session) (k : KeyPress) : Option Touch :=
  match k.key with
  | .char c => if k.ctrl && (s.searchShortcut? c).isSome then none else some .typed
  | .tab => if s.takesTerm then some (.emptied s.searchBox) else none
  | .escape => if s.completion.visible then none else some (.emptied s.searchBox)
  | .backspace => if s.searchBox.text = "" then none else some .typed
  | .enter | .up | .down | .pageUp | .pageDown | .left | .right | .function 5 => none
  | _ => some .typed

/-- **What a move does to the search box**, if anything. -/
def touch? (s : Session) : Move → Option Touch
  | .key k =>
    if k.quits then none
    else
      match s.mode with
      | .search => s.searchTouch? k
      | .tag _ => none
  | _ => none

/-- **All touches of a run**, oldest first. -/
def touches : Session → List Move → List Touch
  | _, [] => []
  | s, m :: moves => (s.touch? m).toList ++ (s.step m).touches moves

/-- **What a touch leaves** in the box and in the query. Without one, the box keeps its text, its places and its
    edits. -/
inductive Touched (s t : Session) : Option Touch → Prop where
  | kept (viewport : TextBox.Viewport) (hbox : t.searchBox = { s.searchBox with viewport })
      (hquery : t.freeText = s.freeText) : Touched s t none
  | typed (k : KeyPress) (hbox : t.searchBox = s.searchBox.press k) (hquery : t.freeText = t.searchBox.text) :
      Touched s t (some .typed)
  | emptied (hbox : t.searchBox = s.searchBox.clearLine) (hquery : t.freeText = "") :
      Touched s t (some (.emptied s.searchBox))

/-! ## Every move touches the box as told -/

/-- What is done besides the box and the dashboard touches nothing. -/
theorem touched_of_eq {s t : Session} (hbox : t.searchBox = s.searchBox) (hdashboard : t.dashboard = s.dashboard) :
    Touched s t none := .kept s.searchBox.viewport hbox (congrArg (·.query.freeText) hdashboard)

/-- An operation on the dashboard that does not edit the text touches nothing. -/
theorem touched_of_step {s t : Session} (op : Dashboard.Operation) (hbox : t.searchBox = s.searchBox)
    (hdashboard : t.dashboard = s.dashboard.step op)
    (htext : (s.dashboard.step op).query.freeText = s.dashboard.query.freeText) : Touched s t none := by
  refine .kept s.searchBox.viewport hbox ?_
  show t.dashboard.query.freeText = _
  rw [hdashboard]
  exact htext

theorem touched_submitSome (s : Session) (c : Option Command) : Touched s (s.submitSome c) none := by
  cases c with
  | none => exact touched_of_eq rfl rfl
  | some c =>
      have hdashboard : (s.submitSome (some c)).dashboard = s.dashboard.step (.begin c) := s.submit_dashboard c
      obtain ⟨dashboard, outbox, dirty, heq⟩ := s.submitSome_eq (some c)
      rw [heq] at hdashboard ⊢
      exact touched_of_step (.begin c) rfl hdashboard (Dashboard.step_freeText ..)

theorem touched_refresh (s : Session) : Touched s s.refresh none := by
  obtain ⟨outbox, heq⟩ := s.refresh_eq
  rw [heq]
  exact touched_of_eq rfl rfl

theorem touched_typeSearch (s : Session) (k : KeyPress) : Touched s (s.typeSearch k) (some .typed) :=
  .typed k rfl (Dashboard.step_freeText s.dashboard (.setFreeText (s.searchBox.press k).text))

theorem touched_takeTyped (s : Session) (d : Dashboard) : Touched s (s.takeTyped d) (some (.emptied s.searchBox)) :=
  .emptied rfl (Dashboard.step_freeText d (.setFreeText ""))

theorem touched_acceptSuggestion (s : Session) :
    Touched s s.acceptSuggestion (if s.takesTerm then some (.emptied s.searchBox) else none) := by
  unfold acceptSuggestion takesTerm
  cases s.completion.current? with
  | some term => exact touched_takeTyped s _
  | none =>
      simp only [Option.isSome_none, Bool.false_or]
      split
      · exact touched_takeTyped s _
      · exact touched_of_eq rfl rfl

theorem touched_escapeSearch (s : Session) :
    Touched s s.escapeSearch (if s.completion.visible then none else some (.emptied s.searchBox)) := by
  unfold escapeSearch
  split
  · exact touched_of_eq rfl rfl
  · exact .emptied rfl (Dashboard.step_freeText s.dashboard .clearQuery)

theorem touched_openPicker (s : Session) : Touched s s.openPicker none := by
  unfold openPicker
  split <;> exact touched_of_eq rfl rfl

theorem touched_searchShortcut {s t : Session} {c : Char} (h : s.searchShortcut? c = some t) : Touched s t none := by
  unfold searchShortcut? at h
  split at h
  · cases h; exact touched_submitSome s _
  · cases h; exact touched_submitSome s _
  · cases h; exact touched_openPicker s
  · cases h; exact touched_of_eq rfl rfl
  · cases h; exact touched_of_eq rfl rfl
  · cases h

theorem touched_pressSearch (s : Session) (k : KeyPress) : Touched s (s.pressSearch k) (s.searchTouch? k) := by
  unfold pressSearch searchTouch?
  cases k.key with
  | char c =>
      show Touched s (if k.ctrl then (s.searchShortcut? c).getD (s.typeSearch k) else s.typeSearch k)
        (if k.ctrl && (s.searchShortcut? c).isSome then none else some .typed)
      cases k.ctrl with
      | false => exact touched_typeSearch s k
      | true =>
          cases hshort : s.searchShortcut? c with
          | none => exact touched_typeSearch s k
          | some t => exact touched_searchShortcut hshort
  | tab => exact touched_acceptSuggestion s
  | escape => exact touched_escapeSearch s
  | backspace =>
      show Touched s (if s.searchBox.text = "" then { s with dashboard := s.dashboard.popTerm.1 } else s.typeSearch k)
        (if s.searchBox.text = "" then none else some .typed)
      split
      · exact touched_of_step .popTerm rfl rfl (Dashboard.step_freeText ..)
      · exact touched_typeSearch s k
  | enter => exact touched_submitSome s _
  | up => exact touched_of_step (.moveCursor (-1)) rfl rfl (Dashboard.step_freeText ..)
  | down => exact touched_of_step (.moveCursor 1) rfl rfl (Dashboard.step_freeText ..)
  | pageUp => exact touched_of_step (.moveCursor (-pageRows)) rfl rfl (Dashboard.step_freeText ..)
  | pageDown => exact touched_of_step (.moveCursor pageRows) rfl rfl (Dashboard.step_freeText ..)
  | left => exact touched_of_step (.cycleTag (-1)) rfl rfl (Dashboard.step_freeText ..)
  | right => exact touched_of_step (.cycleTag 1) rfl rfl (Dashboard.step_freeText ..)
  | function n =>
      match n with
      | 5 => exact touched_refresh s
      | 0 | 1 | 2 | 3 | 4 => exact touched_typeSearch s k
      | _ + 6 => exact touched_typeSearch s k
  | delete => exact touched_typeSearch s k
  | home => exact touched_typeSearch s k
  | «end» => exact touched_typeSearch s k
  | other => exact touched_typeSearch s k

/-- While a tag picker is open no key touches the search box. -/
theorem touched_pressPicker (s : Session) (repo : String) (k : KeyPress) : Touched s (s.pressPicker repo k) none := by
  have hchoose : Touched s (s.choosePicked repo) none := by
    unfold choosePicked
    simp only
    split
    · rename_i tag _
      exact touched_of_step (.selectTag repo tag) rfl rfl (Dashboard.step_freeText ..)
    · exact touched_of_eq rfl rfl
  unfold pressPicker
  split
  · exact touched_of_eq rfl rfl
  · exact touched_of_eq rfl rfl
  · exact touched_of_eq rfl rfl
  · exact hchoose
  · exact hchoose
  · exact touched_of_step (.setTagInput repo (s.tagBox.press k).text) rfl rfl (Dashboard.step_freeText ..)

theorem touched_handle (s : Session) (now : String) (e : Event) : Touched s (s.handle now e) none := by
  cases e with
  | poll p => exact touched_of_step (.poll now p) rfl rfl (Dashboard.step_freeText ..)
  | finished id error =>
      obtain ⟨outbox, heq⟩ := s.handle_finished now id error
      rw [heq]
      exact touched_of_step (.finish id error) rfl rfl (Dashboard.step_freeText ..)

/-- **Every move touches the box as told.** -/
theorem touched_step (s : Session) (m : Move) : Touched s (s.step m) (s.touch? m) := by
  cases m with
  | connect => exact touched_of_eq rfl rfl
  | startPolling => exact touched_of_eq rfl rfl
  | stopPolling => exact touched_of_eq rfl rfl
  | key k =>
      show Touched s (s.press k) (s.touch? (.key k))
      unfold press touch?
      simp only
      split
      · exact touched_of_eq rfl rfl
      · cases s.mode with
        | search => exact touched_pressSearch s k
        | tag repo => exact touched_pressPicker s repo k
  | event now e => exact touched_handle s now e
  | take n => exact touched_of_eq rfl rfl
  | draw width height =>
      show Touched s (s.step (.draw width height)) none
      unfold step
      simp only
      split
      · rename_i drawn hdraw
        obtain ⟨area, rfl⟩ := draw_eq hdraw
        unfold withActiveBox activeBox
        cases s.mode with
        | search => exact .kept _ rfl rfl
        | tag repo => exact touched_of_eq rfl rfl
      · exact touched_of_eq rfl rfl

/-! ## Runs -/

/-- **What a session shows after its last touch** since the session `s`, in the box and in the query. -/
def Shows (s t : Session) : Option Touch → Prop
  | none => t.searchBox.text = s.searchBox.text ∧ t.freeText = s.freeText
  | some .typed => t.searchBox.text = t.freeText
  | some (.emptied box) => box.Sound ∧ t.searchBox.text = box.clearLine.text ∧ t.freeText = ""

variable {s t : Session} {what : Option Touch}

theorem Touched.sound (h : Touched s t what) (hs : s.searchBox.Sound) : t.searchBox.Sound := by
  cases h with
  | kept viewport hbox _ => rw [hbox]; exact hs.withViewport viewport
  | typed k hbox _ => rw [hbox]; exact hs.press k
  | emptied hbox _ => rw [hbox]; exact hs.clearLine

theorem Touched.shows (h : Touched s t what) (hs : s.searchBox.Sound) : Shows s t what := by
  cases h with
  | kept viewport hbox hquery => exact ⟨by rw [hbox]; rfl, hquery⟩
  | typed k _ hquery => exact hquery.symm
  | emptied hbox hquery => exact ⟨hs, by rw [hbox], hquery⟩

/-- What is shown stays so until the next touch. -/
theorem Shows.trans {u : Session} (h : Shows s t what) (hrest : Shows t u none) : Shows s u what := by
  obtain ⟨hbox, hquery⟩ := hrest
  match what, h with
  | none, h => exact ⟨hbox.trans h.1, hquery.trans h.2⟩
  | some .typed, h =>
      have hsame : t.searchBox.text = t.freeText := h
      exact hbox.trans (hsame.trans hquery.symm)
  | some (.emptied box), h => exact ⟨h.1, hbox.trans h.2.1, hquery.trans h.2.2⟩

/-- **The last touch of a run tells what is shown after it.** -/
theorem shows_run (hs : s.searchBox.Sound) (moves : List Move) :
    Shows s (s.run moves) (s.touches moves).getLast? := by
  induction moves generalizing s with
  | nil => exact ⟨rfl, rfl⟩
  | cons m moves ih =>
      have hstep := touched_step s m
      have hrest := ih (hstep.sound hs)
      show Shows s ((s.step m).run moves) ((s.touch? m).toList ++ (s.step m).touches moves).getLast?
      rw [getLast?_toList_append]
      -- Either a later move is the last to touch the box, or the first move is, if it does.
      cases hlast : ((s.step m).touches moves).getLast? with
      | some last =>
          rw [hlast] at hrest
          cases last <;> exact hrest
      | none =>
          rw [hlast] at hrest
          exact (hstep.shows hs).trans hrest

/-- In every state the search box shows the text of the query, or that is empty. -/
theorem Reachable.agrees_or_cleared (h : Reachable s) : s.Agrees ∨ s.freeText = "" := by
  obtain ⟨title, url, theme, moves, rfl⟩ := h
  have hshows := shows_run (s := start title url theme) TextBox.sound_empty moves
  unfold Agrees
  match hlast : ((start title url theme).touches moves).getLast? with
  | none =>
      rw [hlast] at hshows
      exact .inr hshows.2
  | some .typed =>
      rw [hlast] at hshows
      exact .inl hshows
  | some (.emptied box) =>
      rw [hlast] at hshows
      exact .inr hshows.2.2

/-- **The search box and the query agree** after a run from the start, unless the last touch of the box emptied it, and
    two deletions did not. The text of the query is empty then in any case. -/
theorem agrees_iff_last_touch (title url theme : String) (moves : List Move) :
    (((start title url theme).run moves).Agrees ↔
      ∀ box, ((start title url theme).touches moves).getLast? = some (.emptied box) → box.TwoDeletionsEmpty) ∧
    ∀ box, ((start title url theme).touches moves).getLast? = some (.emptied box) →
      ((start title url theme).run moves).freeText = "" ∧
        (((start title url theme).run moves).searchBox.text = "" ↔ box.TwoDeletionsEmpty) := by
  have hshows := shows_run (s := start title url theme) TextBox.sound_empty moves
  unfold Agrees
  generalize (start title url theme).run moves = t at hshows ⊢
  match hlast : ((start title url theme).touches moves).getLast? with
  | none =>
      rw [hlast] at hshows
      obtain ⟨hbox, hquery⟩ := hshows
      exact ⟨⟨fun _ _ h => (by cases h), fun _ => hbox.trans hquery.symm⟩, fun _ h => (by cases h)⟩
  | some .typed =>
      rw [hlast] at hshows
      exact ⟨⟨fun _ _ h => (by cases h), fun _ => hshows⟩, fun _ h => (by cases h)⟩
  | some (.emptied box) =>
      rw [hlast] at hshows
      obtain ⟨hsound, hbox, hquery⟩ := hshows
      have hempty : t.searchBox.text = "" ↔ box.TwoDeletionsEmpty := by
        rw [hbox]
        exact hsound.clearLine_text_eq_empty_iff
      rw [hquery, hempty]
      refine ⟨⟨fun h b hb => ?_, fun h => h box rfl⟩, fun b hb => ⟨rfl, ?_⟩⟩
      · cases hb; exact h
      · cases hb; exact Iff.rfl

/-- **A line break in the box outlives Escape**: one line of the two is emptied, and the query. -/
theorem not_agrees_after_line_break :
    ∃ s : Session, s = (start "board" "http://backend" "dark").run
        [.key { key := .char 'a' }, .key { key := .char 'm', ctrl := true }, .key { key := .char 'b' },
         .key { key := .escape }] ∧
      s.searchBox.text = "a " ∧ s.freeText = "" ∧ ¬ s.Agrees := by
  refine ⟨_, rfl, by decide, by decide, ?_⟩
  unfold Agrees
  decide

end Session
end DeployBoard
