import DeployBoard.Proofs.Session.Suggestions

/-!
# `Proofs.Session.Popup` — the popup is never out of date

The popup is kept beside what it lists: the suggestions are found when something is typed, when a tag picker opens and
when a poll comes in, and stay as they are in between. In between, commands begin and end, chosen terms go, and the mode
changes. None of it puts the popup out of order (`Free.formed`) or makes a candidate of it one that is gone: what is
highlighted can be taken in every state (`popup_up_to_date`).
-/

namespace DeployBoard
namespace Session

open Text

variable {s t : Session} {repo : String}

/-! ## The popup is in order -/

/-- Suggestions that have just been found are in order. -/
theorem formed_refreshCompletion (s : Session) : s.refreshCompletion.completion.Formed := by
  unfold refreshCompletion
  cases s.mode with
  | search => exact Completion.formed_update ..
  | tag repo => exact Completion.formed_update ..

theorem Searched.formed {k : KeyPress} (h : Searched s k t) (hs : s.completion.Formed) : t.completion.Formed := by
  cases h with
  | submitted c =>
      obtain ⟨dashboard, outbox, dirty, heq⟩ := s.submitSome_eq c
      rw [heq]
      exact hs
  | opened =>
      rcases s.openPicker_cases with hnone | ⟨repo, shown, _, hsome⟩
      · rwa [hnone]
      · rw [hsome]
        exact formed_refreshCompletion _
  | browsed completion hbrowsed => exact hs.browsed hbrowsed
  | operated => exact hs
  | refreshed =>
      obtain ⟨outbox, heq⟩ := s.refresh_eq
      rw [heq]
      exact hs
  | accepted =>
      unfold acceptSuggestion
      cases s.completion.current? with
      | some term => exact Completion.formed_empty
      | none =>
          simp only
          split
          · exact Completion.formed_empty
          · exact hs
  | escaped =>
      unfold escapeSearch
      split
      · exact Completion.formed_empty
      · exact hs
  | typed => exact formed_refreshCompletion _

theorem Picked.formed {key : PickerKey} (h : Picked s repo t key) (hs : s.completion.Formed) :
    t.completion.Formed := by
  cases h with
  | left => exact Completion.formed_empty
  | browsed completion hbrowsed => exact hs.browsed hbrowsed
  | chose => exact Completion.formed_empty
  | choseNothing => exact Completion.formed_empty
  | edited text shown => exact formed_refreshCompletion _

theorem formed_press (hs : s.completion.Formed) (k : KeyPress) : (s.press k).completion.Formed := by
  unfold press
  split
  · exact hs
  · cases s.mode with
    | search => exact (searched_pressSearch s k).formed hs
    | tag repo => exact (picked_pressPicker s repo k).formed hs

theorem formed_step (hs : s.completion.Formed) (m : Move) : (s.step m).completion.Formed := by
  cases m with
  | connect => exact hs
  | startPolling => exact hs
  | stopPolling => exact hs
  | key k => exact formed_press hs k
  | event now e =>
      cases e with
      | poll p => exact formed_refreshCompletion { s with dashboard := s.dashboard.handlePoll now p }
      | finished id error =>
          obtain ⟨outbox, heq⟩ := s.handle_finished now id error
          show (s.handle now (.finished id error)).completion.Formed
          rw [heq]
          exact hs
  | take n => exact hs
  | draw width height =>
      obtain ⟨searchBox, tagBox, dirty, heq⟩ := s.step_draw width height
      rw [heq]
      exact hs

theorem formed_act (s : Session) (d : Deed) (hs : s.completion.Formed) : (s.act d).completion.Formed := by
  cases d with
  | move m => exact formed_step hs m
  | opening shown =>
      rw [Session.act]
      split
      · exact formed_refreshCompletion _
      · exact hs
  | editing text shown =>
      rw [Session.act]
      split
      · exact hs
      · exact formed_refreshCompletion _

/-- **The popup is in order**, in every state. -/
theorem Free.formed (h : Free s) : s.completion.Formed :=
  free_induction (fun _ _ _ => Completion.formed_empty) formed_act h

/-! ## What the popup lists -/

/-- What is listed while searching are the suggestions for what is in the box. -/
theorem Reachable.items_of_search (h : Reachable s) (hmode : s.mode = .search) :
    s.completion.items = [] ∨
      s.completion.items =
        suggest s.dashboard.searchTerms s.searchBox.text s.dashboard.query.chosen maxSuggestions := by
  by_cases hitems : s.completion.items = []
  · exact .inl hitems
  · exact .inr (h.offered hmode (h.free.formed.visible.mpr hitems)).2

/-- **The popup is never out of date.** In every state that a session can come into: the popup is shown just while it
    has suggestions, it has at most eight, and one of them is highlighted. While the tag picker of a repository is open
    they are tags of its record, in their order, and there are none if the repository is gone. While searching they
    are names and tags of the index, in the order of the vocabulary, and each contains the text in the search box,
    and the text of the query, trimmed and without regard to case. So what is current is one of them. -/
theorem popup_up_to_date (h : Reachable s) :
    (s.completion.visible = true ↔ s.completion.items ≠ []) ∧ s.completion.items.length ≤ 8 ∧
    (s.completion.selected < s.completion.items.length ∨ s.completion.items = [] ∧ s.completion.selected = 0) ∧
    (∀ repo, s.mode = .tag repo →
      (∀ record, s.dashboard.index.get? repo = some record → s.completion.items.Sublist record.tags) ∧
        (s.dashboard.index.get? repo = none → s.completion.items = [])) ∧
    (s.mode = .search → s.completion.items.Sublist s.dashboard.index.vocabulary ∧
      ∀ item ∈ s.completion.items,
        (lowercase (trim s.searchBox.text)).toList <:+: (lowercase item).toList ∧
          (lowercase (trim s.freeText)).toList <:+: (lowercase item).toList) ∧
    ((s.completion.current? = none ↔ s.completion.items = []) ∧
      ∀ item, s.completion.current? = some item → item ∈ s.completion.items) := by
  have hformed : s.completion.Formed := h.free.formed
  refine ⟨hformed.visible, hformed.few, hformed.highlight, ?_, ?_, ?_, ?_⟩
  · intro repo hmode
    have htags : s.completion.items.Sublist (s.pickerTags repo) := h.free.sane.offers repo hmode
    unfold pickerTags at htags
    constructor
    · intro record hrecord
      rwa [hrecord] at htags
    · intro hgone
      rw [hgone] at htags
      exact List.sublist_nil.mp htags
  · intro hmode
    rcases h.items_of_search hmode with hnone | hitems
    · rw [hnone]
      exact ⟨List.nil_sublist _, fun item hitem => absurd hitem List.not_mem_nil⟩
    · rw [hitems]
      refine ⟨suggest_sublist _ _ _ _, fun item hitem => ?_⟩
      obtain ⟨_, hcontains⟩ := mem_suggest hitem
      refine ⟨hcontains, ?_⟩
      -- The text of the query is the one in the box, or empty.
      rcases h.agrees_or_cleared with hagrees | hcleared
      · rwa [← hagrees]
      · rw [hcleared]
        exact List.nil_infix
  · constructor
    · intro hnone
      by_contra hitems
      obtain ⟨item, _, hcurrent⟩ := hformed.current (hformed.visible.mpr hitems)
      rw [hnone] at hcurrent
      cases hcurrent
    · intro hempty
      cases hcurrent : s.completion.current? with
      | none => rfl
      | some item =>
          have hitem := Completion.mem_of_current? hcurrent
          rw [hempty] at hitem
          exact absurd hitem List.not_mem_nil
  · intro item hcurrent
    exact Completion.mem_of_current? hcurrent

/-- The picker of "api" after its box was cut to "v": both tags are suggested, and after a poll without "api" none. -/
theorem popup_follows_poll :
    ((sampleSession.step (.key { key := .char 't', ctrl := true })).step
        (.key { key := .backspace })).completion.items = ["v1", "v2"] ∧
      (((sampleSession.step (.key { key := .char 't', ctrl := true })).step (.key { key := .backspace })).step
        (.event "12:00:05" (.poll (.updated ∅)))).completion.items = [] := by
  have hopened := sampleSession_reachable.step (.key { key := .char 't', ctrl := true })
  have htyped := hopened.step (.key { key := .backspace })
  have hgone := htyped.step (.event "12:00:05" (.poll (.updated ∅)))
  refine ⟨by decide +kernel, ?_⟩
  exact ((popup_up_to_date hgone).2.2.2.1 "api" (by decide +kernel)).2 (by decide +kernel)

end Session
end DeployBoard
