import DeployBoard.Proofs.Index.Filter
import DeployBoard.Proofs.Query
import DeployBoard.Proofs.Session.Deeds
import DeployBoard.Proofs.Session.Escape
import DeployBoard.Proofs.Session.SearchBox

/-!
# `Proofs.Session.Suggestions` — the popup and the search beside it

While something is typed into the search box, the popup suggests names and tags that contain it, and the search beside
it narrows the list to what it hits. Both are found from the same typing, but not in the same way: the suggestions
from the text in the box, trimmed, and the search from the text of the query, as it is, and from the chosen terms.

`Offered` says what an open popup lists, in every state (`Reachable.offered`). So `suggestions_hit` tells which
suggestions the search hits: all of them, when the box shows the text of the query and there is no white space at its
ends. A space typed behind a name is enough to part the two (`suggestion_hidden_by_space`).
-/

namespace DeployBoard
namespace Session

open Text

/-- **What the popup lists while searching**, as long as it is open: the suggestions for what is in the search box. -/
def Offered (s : Session) : Prop :=
  s.mode = .search → s.completion.visible = true →
    isBlankText s.searchBox.text = false ∧
      s.completion.items =
        suggest s.dashboard.searchTerms s.searchBox.text s.dashboard.query.chosen maxSuggestions

variable {s t : Session} {repo : String}

/-! ## What a suggestion is -/

/-- **A suggestion** is a candidate that contains what is typed, trimmed and without regard to case. -/
theorem mem_suggest {candidates exclude : List String} {input item : String} {limit : Nat}
    (h : item ∈ suggest candidates input exclude limit) :
    item ∈ candidates ∧ (lowercase (trim input)).toList <:+: (lowercase item).toList := by
  have hfound := List.mem_of_mem_take h
  obtain ⟨hcandidate, hcontains⟩ := List.mem_filter.mp hfound
  refine ⟨List.mem_of_mem_filter hcandidate, ?_⟩
  rw [Bool.or_eq_true] at hcontains
  rcases hcontains with hempty | hoccurs
  · have hnothing : lowercase (trim input) = "" := beq_iff_eq.mp hempty
    rw [hnothing]
    exact List.nil_infix
  · exact occursIn_iff.mp hoccurs

/-! ## What an open popup lists -/

theorem offered_of_hidden (h : s.completion.visible = false) : Offered s := by
  intro _ hvisible
  rw [h] at hvisible
  cases hvisible

theorem offered_of_picker (h : s.mode = .tag repo) : Offered s := by
  intro hsearch _
  rw [h] at hsearch
  cases hsearch

/-- Suggestions that have just been found are those for what is in the box. -/
theorem offered_refreshCompletion (s : Session) : Offered s.refreshCompletion := by
  intro hmode hvisible
  have hsearch : s.mode = .search := hmode
  unfold refreshCompletion at hvisible ⊢
  rw [hsearch] at hvisible ⊢
  cases hblank : isBlankText s.searchBox.text with
  | true =>
      rw [Completion.update_blank hblank] at hvisible
      cases hvisible
  | false => exact ⟨rfl, Completion.update_items hblank⟩

theorem Offered.congr (hs : Offered s) (hmode : t.mode = s.mode)
    (hvisible : t.completion.visible = s.completion.visible) (hitems : t.completion.items = s.completion.items)
    (htext : t.searchBox.text = s.searchBox.text)
    (hterms : t.dashboard.searchTerms = s.dashboard.searchTerms)
    (hchosen : t.dashboard.query.chosen = s.dashboard.query.chosen) : Offered t := by
  intro hsearch hopen
  rw [hitems, htext, hterms, hchosen]
  exact hs (hmode ▸ hsearch) (hvisible ▸ hopen)

/-- An operation that brings no index and is not about the query leaves the suggestions right. -/
theorem Offered.operated (hs : Offered s) (hboard : Dashboard.SameTags s.dashboard) {op : Dashboard.Operation}
    (hop : op.bringsIndex = false) (hquery : op.queryOf? s.dashboard = none) (hmode : t.mode = s.mode)
    (hcompletion : t.completion = s.completion) (hbox : t.searchBox = s.searchBox)
    (hdashboard : t.dashboard = s.dashboard.step op) : Offered t := by
  refine hs.congr hmode (by rw [hcompletion]) (by rw [hcompletion]) (by rw [hbox]) ?_ ?_
  · rw [hdashboard]
    exact Dashboard.searchTerms_step hboard hop
  · rw [hdashboard, Dashboard.step_query, hquery, Option.getD_none]

theorem Offered.submitSome (hs : Offered s) (hboard : Dashboard.SameTags s.dashboard) (c : Option Command) :
    Offered (s.submitSome c) := by
  cases c with
  | none => exact hs
  | some c =>
      have hdashboard : (s.submitSome (some c)).dashboard = s.dashboard.step (.begin c) := s.submit_dashboard c
      obtain ⟨dashboard, outbox, dirty, heq⟩ := s.submitSome_eq (some c)
      rw [heq] at hdashboard ⊢
      exact hs.operated hboard rfl rfl rfl rfl rfl hdashboard

/-- Taking a term closes the popup. -/
theorem Offered.acceptSuggestion (hs : Offered s) : Offered s.acceptSuggestion := by
  unfold Session.acceptSuggestion
  cases s.completion.current? with
  | some term => exact offered_of_hidden rfl
  | none =>
      simp only
      split
      · exact offered_of_hidden rfl
      · exact hs

/-! ## Every move -/

theorem Searched.offered {k : KeyPress} (h : Searched s k t) (hs : Offered s)
    (hboard : Dashboard.SameTags s.dashboard) : Offered t := by
  cases h with
  | submitted c => exact hs.submitSome hboard c
  | opened =>
      rcases s.openPicker_cases with hnone | ⟨repo, shown, _, hsome⟩
      · rwa [hnone]
      · rw [hsome]
        exact offered_of_picker rfl
  | browsed completion hbrowsed => exact hs.congr rfl hbrowsed.visible hbrowsed.items rfl rfl rfl
  | operated op hop hquery =>
      rcases hquery with hquery | hempty
      · exact hs.operated hboard hop hquery rfl rfl rfl rfl
      · -- With nothing in the box the popup is not open.
        intro hmode hvisible
        have hfilled := (hs hmode hvisible).1
        rw [hempty] at hfilled
        cases hfilled
  | refreshed =>
      obtain ⟨outbox, heq⟩ := s.refresh_eq
      rw [heq]
      exact hs
  | accepted => exact hs.acceptSuggestion
  | escaped => exact offered_of_hidden s.escapeSearch_visible
  | typed => exact offered_refreshCompletion _

/-- Keys for an open picker leave it open, or close the popup with it. -/
theorem Picked.offered {key : PickerKey} (h : Picked s repo t key) (hmode : s.mode = .tag repo) : Offered t := by
  cases h with
  | left => exact offered_of_hidden rfl
  | browsed completion _ => exact offered_of_picker hmode
  | chose => exact offered_of_hidden rfl
  | choseNothing => exact offered_of_hidden rfl
  | edited text shown => exact offered_of_picker hmode

theorem Offered.press (hs : Offered s) (hboard : Dashboard.SameTags s.dashboard) (k : KeyPress) :
    Offered (s.press k) := by
  unfold Session.press
  split
  · exact hs
  · cases hmode : s.mode with
    | search => exact (searched_pressSearch s k).offered hs hboard
    | tag repo => exact (picked_pressPicker s repo k).offered hmode

/-- Drawing moves the view of the boxes, not their text. -/
theorem Offered.draw (hs : Offered s) (width height : Nat) : Offered (s.step (.draw width height)) := by
  have htouched : Touched s (s.step (.draw width height)) none := touched_step s (.draw width height)
  obtain ⟨searchBox, tagBox, dirty, heq⟩ := s.step_draw width height
  rw [heq] at htouched ⊢
  cases htouched with
  | kept viewport hbox _ => exact hs.congr rfl rfl rfl (by rw [hbox]; rfl) rfl rfl

theorem Offered.step (hs : Offered s) (hboard : Dashboard.SameTags s.dashboard) (m : Move) : Offered (s.step m) := by
  cases m with
  | connect => exact hs
  | startPolling => exact hs
  | stopPolling => exact hs
  | key k => exact hs.press hboard k
  | event now e =>
      cases e with
      | poll p =>
          have hfound := offered_refreshCompletion { s with dashboard := s.dashboard.handlePoll now p }
          exact hfound.congr rfl rfl rfl rfl rfl rfl
      | finished id error =>
          obtain ⟨outbox, heq⟩ := s.handle_finished now id error
          show Offered (s.handle now (.finished id error))
          have hop : (Dashboard.Operation.finish id error).bringsIndex = false := rfl
          rw [heq]
          exact hs.operated hboard hop rfl rfl rfl rfl rfl
  | take n => exact hs
  | draw width height => exact hs.draw width height

/-- **An open popup lists the suggestions for what is in the search box**, in every state. -/
theorem Reachable.offered (h : Reachable s) : Offered s :=
  reachable_induction (fun _ _ _ => offered_of_hidden rfl)
    (fun _ m hreach hs => hs.step hreach.dashboard.sameTags m) h

/-! ## Suggestions and the search -/

/-- **Which suggestions the search hits.** In every state in which the popup is open while searching: what it lists are
    names and tags of the index that contain the text in the box, trimmed. The search hits one exactly when it contains
    the text of the query, as it was typed, or a chosen term; and a suggestion that is hit is on display as a name or a
    tag. So all suggestions are hit and on display if the box shows the text of the query, with no white space at its
    ends. -/
theorem suggestions_hit (h : Reachable s) (hmode : s.mode = .search) (hvisible : s.completion.visible = true) :
    (∀ item ∈ s.completion.items, item ∈ s.dashboard.searchTerms ∧
      (lowercase (trim s.searchBox.text)).toList <:+: (lowercase item).toList) ∧
    (∀ item ∈ s.completion.items,
      (s.dashboard.query.terms.hits item = true ↔
        (isBlankText s.freeText = false ∧ (lowercase s.freeText).toList <:+: (lowercase item).toList) ∨
          ∃ term ∈ s.dashboard.query.chosen, term.toList <:+: (lowercase item).toList) ∧
      (s.dashboard.query.terms.hits item = true → item ∈ s.dashboard.display.searchable)) ∧
    (s.Agrees → trim s.searchBox.text = s.searchBox.text → ∀ item ∈ s.completion.items,
      s.dashboard.query.terms.hits item = true ∧ item ∈ s.dashboard.display.searchable) := by
  obtain ⟨hfilled, hitems⟩ := h.offered hmode hvisible
  have hfound : ∀ item ∈ s.completion.items, item ∈ s.dashboard.searchTerms ∧
      (lowercase (trim s.searchBox.text)).toList <:+: (lowercase item).toList := by
    intro item hitem
    rw [hitems] at hitem
    exact mem_suggest hitem
  have hhit : ∀ item, s.dashboard.query.terms.hits item = true ↔
      (isBlankText s.freeText = false ∧ (lowercase s.freeText).toList <:+: (lowercase item).toList) ∨
        ∃ term ∈ s.dashboard.query.chosen, term.toList <:+: (lowercase item).toList := by
    intro item
    rw [Terms.hits_iff]
    simp only [h.dashboard.tidy.mem_terms_iff, or_and_right, exists_or, freeText]
    refine or_congr_left ?_
    constructor
    · rintro ⟨_, ⟨hnotblank, rfl⟩, hoccurs⟩
      exact ⟨hnotblank, hoccurs⟩
    · rintro ⟨hnotblank, hoccurs⟩
      exact ⟨_, ⟨hnotblank, rfl⟩, hoccurs⟩
  have hshown : ∀ item ∈ s.completion.items, s.dashboard.query.terms.hits item = true →
      item ∈ s.dashboard.display.searchable := by
    intro item hitem hterms
    -- The display is the index narrowed to the query, and the suggestion is from the index.
    rw [h.dashboard.derived]
    exact Catalog.searchable_filterTerms (Catalog.mem_vocabulary_iff.mp (hfound item hitem).1) hterms
  refine ⟨hfound, fun item hitem => ⟨hhit item, hshown item hitem⟩, ?_⟩
  intro hagrees htrim item hitem
  -- What is typed is then a term of the search, and every suggestion contains it.
  have hterms : s.dashboard.query.terms.hits item = true := by
    have hoccurs := (hfound item hitem).2
    rw [htrim] at hoccurs
    rw [hagrees] at hfilled hoccurs
    exact (hhit item).mpr (.inl ⟨hfilled, hoccurs⟩)
  exact ⟨hterms, hshown item hitem hterms⟩

/-- "a" typed into the sample session suggests "api", which the search hits. -/
theorem suggestion_hit_by_letter :
    ("api" ∈ (sampleSession.step (.key { key := .char 'a' })).completion.items) ∧
      ∀ item ∈ (sampleSession.step (.key { key := .char 'a' })).completion.items,
        (sampleSession.step (.key { key := .char 'a' })).dashboard.query.terms.hits item = true ∧
          item ∈ (sampleSession.step (.key { key := .char 'a' })).dashboard.display.searchable := by
  have hreachable := sampleSession_reachable.step (.key { key := .char 'a' })
  have hagrees : (sampleSession.step (.key { key := .char 'a' })).Agrees := by
    unfold Agrees
    decide +kernel
  exact ⟨by decide +kernel, (suggestions_hit hreachable (by decide +kernel) (by decide +kernel)).2.2 hagrees
    (by decide +kernel)⟩

/-- **A space parts the popup from the search**: with "a " in the box, "api" is suggested still, but the search does not
    hit it. -/
theorem suggestion_hidden_by_space :
    ¬ ∀ s, Reachable s → s.mode = .search → s.completion.visible = true → ∀ item ∈ s.completion.items,
      s.dashboard.query.terms.hits item = true ∧ item ∈ s.dashboard.display.searchable := by
  intro h
  have hreachable := (sampleSession_reachable.step (.key { key := .char 'a' })).step (.key { key := .char ' ' })
  have hhit := (h _ hreachable (by decide +kernel) (by decide +kernel) "api" (by decide +kernel)).1
  exact absurd hhit (by decide +kernel)

end Session
end DeployBoard
