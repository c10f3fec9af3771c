import DeployBoard.Proofs.Dashboard.Tags
import DeployBoard.Proofs.Session.Run

/-!
# `Proofs.Session.Deeds` — sessions whose picker's box does as it likes

While the tag picker of a repository is open, the keys go to its box and to the suggestions under it. What the box
makes of a key is of no consequence to the rest of the session, so it is left open: a **deed** is a move of the
session, or a key after which the box holds whatever it likes.

`Picked` says what a key can do to an open picker. The suggestions that it chooses from were found earlier, and the
index may have changed since then; but a poll finds them again, and nothing else changes tags, so they are tags of
the repository still. That and the dashboard's own invariants hold in every state (`Free.sane`).
-/

namespace DeployBoard
namespace Session

open Dashboard (Leads)

/-! ## Deeds -/

/-- The picker of `repo` has been opened, with `shown` in its box. -/
def opened (s : Session) (repo : String) (shown : TextBox) : Session :=
  { s with tagBox := shown, mode := .tag repo }.refreshCompletion

/-- A key has left `text` in the box of `repo`'s picker, and after it the box shows `shown`. -/
def edited (s : Session) (repo text : String) (shown : TextBox) : Session :=
  { s with tagBox := shown, dashboard := s.dashboard.setTagInput repo text }.refreshCompletion

/-- **What can be done to a session whose picker's box answers as it likes.** -/
inductive Deed where
  | move (m : Move)
  /-- The key that opens the picker. -/
  | opening (shown : TextBox)
  /-- A key for the box of the open picker. -/
  | editing (text : String) (shown : TextBox)

/-- The session after one deed. -/
def act (s : Session) : Deed → Session
  | .move m => s.step m
  | .opening shown =>
    match s.mode, s.dashboard.selectedName? with
    | .search, some repo => s.opened repo shown
    | _, _ => s
  | .editing text shown =>
    match s.mode with
    | .search => s
    | .tag repo => s.edited repo text shown

/-- The session after deeds, in their order. -/
def acts (s : Session) (deeds : List Deed) : Session := deeds.foldl act s

/-- Every deed of a run passes `check` in the state that it meets. -/
def throughout (check : Session → Deed → Bool) : Session → List Deed → Bool
  | _, [] => true
  | s, d :: deeds => check s d && throughout check (s.act d) deeds

/-- **A state that a session can come into**, whatever its picker's box does. -/
def Free (s : Session) : Prop := ∃ title url theme deeds, (start title url theme).acts deeds = s

variable {s t : Session} {repo : String}

/-- A box that does as text boxes do is one of those that do as they like. -/
theorem Reachable.free (h : Reachable s) : Free s := by
  obtain ⟨title, url, theme, moves, rfl⟩ := h
  refine ⟨title, url, theme, moves.map .move, ?_⟩
  exact List.foldl_map ..

theorem Free.act (h : Free s) (d : Deed) : Free (s.act d) := by
  obtain ⟨title, url, theme, deeds, rfl⟩ := h
  exact ⟨title, url, theme, deeds ++ [d], List.foldl_append ..⟩

/-- **What holds at the start and every deed keeps, holds in every state.** -/
theorem free_induction {P : Session → Prop} (hstart : ∀ title url theme, P (start title url theme))
    (hact : ∀ s d, P s → P (s.act d)) (h : Free s) : P s := by
  obtain ⟨title, url, theme, deeds, rfl⟩ := h
  have hrun : ∀ s, P s → P (s.acts deeds) := by
    induction deeds with
    | nil => exact fun _ hs => hs
    | cons d deeds ih => exact fun s hs => ih (s.act d) (hact s d hs)
  exact hrun _ (hstart title url theme)

/-! ## Keys while a picker is open -/

/-- **A key, as an open picker takes it.** -/
inductive PickerKey where
  | leave
  | browse
  | choose
  /-- The box takes it, and holds `text` then. -/
  | edit (text : String)
  deriving DecidableEq

/-- What kind of key `k` is for the open picker. -/
def pickerKey (s : Session) (k : KeyPress) : PickerKey :=
  match k.key with
  | .escape => .leave
  | .up | .down => .browse
  | .enter | .tab => .choose
  | _ => .edit (s.tagBox.press k).text

/-- The key of a deed, if it is one and does not end the session. -/
def Deed.pickerKey? (s : Session) : Deed → Option PickerKey
  | .move (.key k) => if k.quits then none else some (s.pickerKey k)
  | .editing text _ => some (.edit text)
  | _ => none

/-- **What a key can do while the picker of `repo` is open.** -/
inductive Picked (s : Session) (repo : String) : Session → PickerKey → Prop where
  | left : Picked s repo s.closePicker .leave
  | browsed (completion : Completion) (hbrowsed : s.completion.Browsed completion) :
      Picked s repo { s with completion } .browse
  | chose (tag : String) (htag : tag ∈ s.completion.items ∨ tag ∈ s.pickerTags repo) :
      Picked s repo { s with dashboard := s.dashboard.selectTag repo tag }.closePicker .choose
  | choseNothing : Picked s repo s.closePicker .choose
  | edited (text : String) (shown : TextBox) : Picked s repo (s.edited repo text shown) (.edit text)

theorem picked_choosePicked (s : Session) (repo : String) : Picked s repo (s.choosePicked repo) .choose := by
  unfold choosePicked
  simp only
  split
  · rename_i tag hchosen
    refine .chose tag ?_
    rw [Option.or_eq_some_iff] at hchosen
    rcases hchosen with hcurrent | ⟨_, htyped⟩
    · left
      unfold Completion.current? at hcurrent
      split at hcurrent
      · exact List.mem_of_getElem? hcurrent
      · cases hcurrent
    · right
      split at htyped
      · rename_i hknown
        cases htyped
        exact List.contains_iff_mem.mp hknown
      · cases htyped
  · exact .choseNothing

theorem picked_pressPicker (s : Session) (repo : String) (k : KeyPress) :
    Picked s repo (s.pressPicker repo k) (s.pickerKey k) := by
  unfold pressPicker pickerKey
  cases k.key with
  | escape => exact .left
  | up => exact .browsed _ (.inr rfl)
  | down => exact .browsed _ (.inl rfl)
  | enter => exact picked_choosePicked s repo
  | tab => exact picked_choosePicked s repo
  | char | backspace | delete | left | right | home | «end» | pageUp | pageDown | function | other => exact .edited _ _

/-- **Every key does one of these.** -/
theorem picked_act (hmode : s.mode = .tag repo) {d : Deed} {key : PickerKey} (hkey : d.pickerKey? s = some key) :
    Picked s repo (s.act d) key := by
  match d with
  | .move (.key k) =>
      unfold Deed.pickerKey? at hkey
      simp only at hkey
      split at hkey
      · cases hkey
      · rename_i hquits
        cases hkey
        show Picked s repo (s.press k) _
        unfold press
        rw [if_neg hquits, hmode]
        exact picked_pressPicker s repo k
  | .editing text shown =>
      cases hkey
      unfold Session.act
      rw [hmode]
      exact .edited text shown

/-! ## The suggestions -/

/-- **What an open picker suggests are tags of its repository**, in their order. -/
def OffersTags (s : Session) : Prop :=
  ∀ repo, s.mode = .tag repo → s.completion.items.Sublist (s.pickerTags repo)

theorem offersTags_of_search (h : s.mode = .search) : OffersTags s := by
  intro repo hmode
  rw [h] at hmode
  cases hmode

/-- Suggestions that have just been found are tags. -/
theorem offersTags_refreshCompletion (s : Session) : OffersTags s.refreshCompletion := by
  intro repo hmode
  have hsame : s.mode = .tag repo := hmode
  unfold refreshCompletion
  rw [hsame]
  exact s.completion.update_items_sublist (s.pickerTags repo) [] s.tagBox.text

theorem OffersTags.congr (hs : OffersTags s) (hmode : t.mode = s.mode)
    (hitems : t.completion.items = s.completion.items)
    (htags : ∀ name, Dashboard.tags? t.dashboard.index name = Dashboard.tags? s.dashboard.index name) :
    OffersTags t := by
  intro repo ht
  have hold := hs repo (hmode ▸ ht)
  have hsame : t.pickerTags repo = s.pickerTags repo := congrArg (Option.getD · []) (htags repo)
  rwa [hitems, hsame]

theorem takeTyped_kept (s : Session) (d : Dashboard) :
    (s.takeTyped d).mode = s.mode ∧ (s.takeTyped d).tagBox = s.tagBox := ⟨rfl, rfl⟩

theorem acceptSuggestion_kept (s : Session) :
    s.acceptSuggestion.mode = s.mode ∧ s.acceptSuggestion.tagBox = s.tagBox := by
  unfold acceptSuggestion
  cases s.completion.current? with
  | some term => exact takeTyped_kept s _
  | none =>
      simp only
      split
      · exact takeTyped_kept s _
      · exact ⟨rfl, rfl⟩

/-- **A key while searching leaves the mode and the picker's box as they are**, unless it opens a picker. -/
theorem Searched.kept_or_opened {k : KeyPress} (h : Searched s k t) :
    (t.mode = s.mode ∧ t.tagBox = s.tagBox) ∨ t = s.openPicker := by
  cases h with
  | submitted c =>
      obtain ⟨dashboard, outbox, dirty, heq⟩ := s.submitSome_eq c
      rw [heq]
      exact .inl ⟨rfl, rfl⟩
  | opened => exact .inr rfl
  | browsed => exact .inl ⟨rfl, rfl⟩
  | operated => exact .inl ⟨rfl, rfl⟩
  | refreshed =>
      obtain ⟨outbox, heq⟩ := s.refresh_eq
      rw [heq]
      exact .inl ⟨rfl, rfl⟩
  | accepted => exact .inl (acceptSuggestion_kept s)
  | escaped =>
      left
      unfold escapeSearch
      split
      · exact ⟨rfl, rfl⟩
      · exact ⟨rfl, rfl⟩
  | typed => exact .inl ⟨rfl, rfl⟩

/-- A key leaves the search by opening a picker only. -/
theorem Searched.mode_eq {k : KeyPress} (h : Searched s k t) (hmode : s.mode = .search) :
    t.mode = .search ∨ t = s.openPicker := by
  rcases h.kept_or_opened with ⟨hkept, _⟩ | hopened
  · exact .inl (hkept.trans hmode)
  · exact .inr hopened

/-- **Opening a picker** changes nothing while no repository is selected. -/
theorem openPicker_cases (s : Session) :
    s.openPicker = s ∨
      ∃ repo shown, s.dashboard.selectedName? = some repo ∧ s.openPicker = s.opened repo shown := by
  unfold openPicker
  cases hselected : s.dashboard.selectedName? with
  | none => exact .inl rfl
  | some repo => exact .inr ⟨repo, _, rfl, rfl⟩

theorem Picked.offersTags {key : PickerKey} (h : Picked s repo t key) (hs : OffersTags s) : OffersTags t := by
  cases h with
  | left => exact offersTags_of_search rfl
  | browsed completion hbrowsed => exact hs.congr rfl hbrowsed.items fun _ => rfl
  | chose => exact offersTags_of_search rfl
  | choseNothing => exact offersTags_of_search rfl
  | edited text shown => exact offersTags_refreshCompletion _

/-! ## Every state -/

/-- **What is true of every state**: the dashboard is one that can come about, and an open picker suggests tags. -/
structure Sane (s : Session) : Prop where
  board : Dashboard.Reachable s.dashboard
  offers : OffersTags s

theorem leads_act (s : Session) (d : Deed) : Leads s.dashboard (s.act d).dashboard := by
  cases d with
  | move m => exact leads_step s m
  | opening shown =>
      rw [Session.act]
      split <;> exact Leads.refl _
  | editing text shown =>
      rw [Session.act]
      split
      · exact Leads.refl _
      · exact Dashboard.leads_step _ (.setTagInput _ text)

/-- An event finds the suggestions again, or it is the end of a command and changes no tags. -/
theorem Sane.offersTags_handle (hs : Sane s) (now : String) (e : Event) : OffersTags (s.handle now e) := by
  cases e with
  | poll p =>
      have hfound := offersTags_refreshCompletion { s with dashboard := s.dashboard.handlePoll now p }
      exact hfound.congr rfl rfl fun _ => rfl
  | finished id error =>
      obtain ⟨outbox, heq⟩ := s.handle_finished now id error
      rw [heq]
      exact hs.offers.congr rfl rfl (Dashboard.tags_step hs.board.sameTags rfl)

theorem OffersTags.press (hs : OffersTags s) (k : KeyPress) : OffersTags (s.press k) := by
  unfold Session.press
  split
  · exact hs
  · split
    · rename_i hmode
      rcases (searched_pressSearch s k).mode_eq hmode with hsearch | hopened
      · exact offersTags_of_search hsearch
      · rw [hopened]
        rcases s.openPicker_cases with hnone | ⟨repo, shown, _, hsome⟩
        · rwa [hnone]
        · rw [hsome]
          exact offersTags_refreshCompletion _
    · exact (picked_pressPicker s _ k).offersTags hs

theorem Sane.offersTags_step (hs : Sane s) (m : Move) : OffersTags (s.step m) := by
  cases m with
  | connect => exact hs.offers
  | startPolling => exact hs.offers
  | stopPolling => exact hs.offers
  | key k => exact hs.offers.press k
  | event now e => exact hs.offersTags_handle now e
  | take n => exact hs.offers
  | draw width height =>
      obtain ⟨searchBox, tagBox, dirty, heq⟩ := s.step_draw width height
      rw [heq]
      exact hs.offers

theorem Sane.act (hs : Sane s) (d : Deed) : Sane (s.act d) := by
  refine ⟨hs.board.trans (leads_act s d), ?_⟩
  cases d with
  | move m => exact hs.offersTags_step m
  | opening shown =>
      rw [Session.act]
      split
      · exact offersTags_refreshCompletion _
      · exact hs.offers
  | editing text shown =>
      rw [Session.act]
      split
      · exact hs.offers
      · exact offersTags_refreshCompletion _

theorem Free.sane (h : Free s) : Sane s :=
  free_induction (fun _ _ _ => ⟨Leads.refl _, offersTags_of_search rfl⟩) (fun _ d hs => hs.act d) h

end Session
end DeployBoard
