import DeployBoard.Proofs.Dashboard.Cursor
import DeployBoard.Proofs.Dashboard.Pickers
import DeployBoard.Proofs.Session.Deeds

/-!
# `Proofs.Session.Picker` — an open picker acts on its own repository

A key in an open picker changes nothing but the chosen tag, and that only to a tag of the repository or to its current
version (`Picked.onlyPicker`, `Picked.chosenTag?`). Events may come in between and change all the rest, but not what is
chosen. So who opens the picker and leaves it again has chosen nothing (`picker_isolated`).
-/

namespace DeployBoard
namespace Session

variable {s t : Session} {repo : String}

/-- The tag that is chosen for a repository. -/
def chosenTag? (s : Session) (repo : String) : Option String := (s.dashboard.pickers.get? repo).map (·.selected)

/-! ## One key -/

/-- **Only the picker of `repo` changes**, and nothing is to be done outside. -/
structure OnlyPicker (repo : String) (s t : Session) : Prop where
  index : t.dashboard.index = s.dashboard.index
  display : t.dashboard.display = s.dashboard.display
  query : t.dashboard.query = s.dashboard.query
  cursor : t.dashboard.cursor = s.dashboard.cursor
  pending : t.dashboard.pending = s.dashboard.pending
  others : ∀ name, name ≠ repo → t.dashboard.pickers.get? name = s.dashboard.pickers.get? name
  outbox : t.outbox = s.outbox

theorem onlyPicker_of_eq (hdashboard : t.dashboard = s.dashboard) (houtbox : t.outbox = s.outbox) :
    OnlyPicker repo s t := by
  constructor <;> simp [hdashboard, houtbox]

theorem onlyPicker_of_modify {f : TagPicker → TagPicker}
    (hdashboard : t.dashboard = { s.dashboard with pickers := s.dashboard.pickers.modify repo f })
    (houtbox : t.outbox = s.outbox) : OnlyPicker repo s t := by
  constructor
  case others =>
    intro name hname
    rw [hdashboard, Catalog.get?_modify, if_neg hname]
  all_goals simp [hdashboard, houtbox]

theorem Picked.onlyPicker {key : PickerKey} (h : Picked s repo t key) : OnlyPicker repo s t := by
  cases h with
  | left => exact onlyPicker_of_eq rfl rfl
  | browsed => exact onlyPicker_of_eq rfl rfl
  | chose tag => exact onlyPicker_of_modify rfl rfl
  | choseNothing => exact onlyPicker_of_eq rfl rfl
  | edited text shown =>
      cases hrecord : s.dashboard.index.get? repo with
      | none => exact onlyPicker_of_eq (Dashboard.setTagInput_of_unknown hrecord text) rfl
      | some record => exact onlyPicker_of_modify (Dashboard.setTagInput_of_known hrecord text) rfl

/-- What is chosen after a change of the picker. -/
theorem chosenTag?_of_modify {f : TagPicker → TagPicker} {picker : TagPicker}
    (hpicker : s.dashboard.pickers.get? repo = some picker)
    (hdashboard : t.dashboard = { s.dashboard with pickers := s.dashboard.pickers.modify repo f }) :
    t.chosenTag? repo = some (f picker).selected := by
  unfold chosenTag?
  rw [hdashboard, Catalog.get?_modify, if_pos rfl, hpicker]
  rfl

/-- A repository with tags is in the index, and they are its record's. -/
theorem record_of_mem_pickerTags {tag : String} (h : tag ∈ s.pickerTags repo) :
    ∃ record, s.dashboard.index.get? repo = some record ∧ tag ∈ record.tags := by
  unfold pickerTags at h
  cases hrecord : s.dashboard.index.get? repo with
  | none =>
      rw [hrecord] at h
      exact absurd h List.not_mem_nil
  | some record =>
      rw [hrecord] at h
      exact ⟨record, rfl, h⟩

/-- A repository of the index has a picker. -/
theorem Sane.picker (hs : Sane s) {record : Record} (hrecord : s.dashboard.index.get? repo = some record) :
    ∃ picker, s.dashboard.pickers.get? repo = some picker := by
  apply hs.board.equipped.picker
  exact Catalog.contains_of_get? hrecord

/-- **What a key can make of the chosen tag**: an emptied box goes back to the current version, and Enter and Tab
    choose a tag that the repository has. -/
theorem Picked.chosenTag? {key : PickerKey} (h : Picked s repo t key) (hs : Sane s) (hmode : s.mode = .tag repo) :
    t.chosenTag? repo = s.chosenTag? repo ∨
      (key = .edit "" ∧ ∃ record, s.dashboard.index.get? repo = some record ∧
        t.chosenTag? repo = some record.pinnedTagValue) ∨
      (key = .choose ∧ ∃ record tag, s.dashboard.index.get? repo = some record ∧ tag ∈ record.tags ∧
        t.chosenTag? repo = some tag) := by
  cases h with
  | left => exact .inl rfl
  | browsed => exact .inl rfl
  | choseNothing => exact .inl rfl
  | chose tag htag =>
      -- A suggestion is a tag by the invariant, and a typed text is looked up in the tags.
      have hknown : tag ∈ s.pickerTags repo := htag.elim (fun h => (hs.offers repo hmode).subset h) id
      obtain ⟨record, hrecord, hmem⟩ := record_of_mem_pickerTags hknown
      obtain ⟨picker, hpicker⟩ := hs.picker hrecord
      refine .inr (.inr ⟨rfl, record, tag, hrecord, hmem, ?_⟩)
      exact chosenTag?_of_modify (f := fun p => p.select tag) hpicker rfl
  | edited text shown =>
      cases hrecord : s.dashboard.index.get? repo with
      | none =>
          have hdashboard : (s.edited repo text shown).dashboard = s.dashboard :=
            Dashboard.setTagInput_of_unknown hrecord text
          left
          unfold Session.chosenTag?
          rw [hdashboard]
      | some record =>
          obtain ⟨picker, hpicker⟩ := hs.picker hrecord
          have hafter : (s.edited repo text shown).chosenTag? repo = some (picker.setInput text record).selected :=
            chosenTag?_of_modify (f := fun p => p.setInput text record) hpicker
              (Dashboard.setTagInput_of_known hrecord text)
          by_cases htext : text = ""
          · subst htext
            rw [TagPicker.setInput_empty] at hafter
            exact .inr (.inl ⟨rfl, record, rfl, hafter⟩)
          · rw [TagPicker.setInput_selected_of_ne htext] at hafter
            left
            rw [hafter]
            unfold Session.chosenTag?
            rw [hpicker]
            rfl

theorem Picked.chosenTag?_of_leave (h : Picked s repo t .leave) : t.chosenTag? repo = s.chosenTag? repo := by
  cases h
  rfl

/-! ## A stay in the picker -/

/-- The deed leaves the picker of `repo` open and `repo` in the index, and does not empty the box. -/
def lingers (repo : String) (s : Session) (d : Deed) : Bool :=
  (s.act d).mode = .tag repo && (s.act d).dashboard.index.contains repo && d.pickerKey? s ≠ some (.edit "")

theorem lingers_iff {d : Deed} :
    lingers repo s d = true ↔
      (s.act d).mode = .tag repo ∧ (s.act d).dashboard.index.contains repo = true ∧
        d.pickerKey? s ≠ some (.edit "") := by
  unfold lingers
  rw [Bool.and_eq_true, Bool.and_eq_true, decide_eq_true_eq, decide_eq_true_eq, and_assoc]

/-- An event is not about a picker. -/
theorem operationOf_pickerOf? (d : Dashboard) (now : String) (e : Event) :
    (operationOf now e).pickerOf? d = none := by
  cases e <;> rfl

/-- **What is not a key leaves the picker alone**, as long as the repository stays. -/
theorem Sane.picker_of_no_key (hs : Sane s) (hmode : s.mode = .tag repo) {d : Deed}
    (hkey : d.pickerKey? s = none) (hbefore : s.dashboard.index.contains repo = true)
    (hafter : (s.act d).dashboard.index.contains repo = true) :
    (s.act d).dashboard.pickers.get? repo = s.dashboard.pickers.get? repo := by
  match d with
  | .move (.key k) =>
      unfold Deed.pickerKey? at hkey
      simp only at hkey
      split at hkey
      · rename_i hquits
        show (s.press k).dashboard.pickers.get? repo = _
        unfold press
        rw [if_pos hquits]
      · cases hkey
  | .move (.event now e) =>
      have hstep : (s.act (.move (.event now e))).dashboard = s.dashboard.step (operationOf now e) :=
        s.handle_dashboard now e
      rw [hstep] at hafter ⊢
      exact (Dashboard.repick_step s.dashboard (operationOf now e)).get?_eq
        ((hs.board.equipped repo).trans hbefore) hafter (by rw [operationOf_pickerOf?]; exact nofun)
  | .move .connect | .move .startPolling | .move .stopPolling | .move (.take _) => rfl
  | .move (.draw width height) =>
      obtain ⟨searchBox, tagBox, dirty, heq⟩ := s.step_draw width height
      show (s.step (.draw width height)).dashboard.pickers.get? repo = _
      rw [heq]
  | .opening shown =>
      unfold Session.act
      rw [hmode]

/-- One deed of a stay leaves the chosen tag alone. -/
theorem Sane.chosenTag?_of_lingers (hs : Sane s) (hmode : s.mode = .tag repo)
    (hbefore : s.dashboard.index.contains repo = true) {d : Deed} (h : lingers repo s d = true) :
    (s.act d).chosenTag? repo = s.chosenTag? repo := by
  obtain ⟨hopen, hafter, hemptied⟩ := lingers_iff.mp h
  cases hkey : d.pickerKey? s with
  | none => exact congrArg (Option.map _) (hs.picker_of_no_key hmode hkey hbefore hafter)
  | some key =>
      have hpicked := picked_act hmode hkey
      rcases hpicked.chosenTag? hs hmode with hsame | ⟨rfl, _⟩ | ⟨rfl, _⟩
      · exact hsame
      · exact absurd hkey hemptied
      · -- Whoever chooses leaves.
        generalize s.act d = t at hpicked hopen
        cases hpicked <;> cases hopen

/-- **A stay leaves the chosen tag alone.** -/
theorem Sane.chosenTag?_of_stay {deeds : List Deed} (hs : Sane s) (hmode : s.mode = .tag repo)
    (hbefore : s.dashboard.index.contains repo = true) (hstay : throughout (lingers repo) s deeds = true) :
    (s.acts deeds).chosenTag? repo = s.chosenTag? repo ∧ (s.acts deeds).mode = .tag repo := by
  induction deeds generalizing s with
  | nil => exact ⟨rfl, hmode⟩
  | cons d deeds ih =>
      obtain ⟨hfirst, hrest⟩ := Bool.and_eq_true_iff.mp hstay
      obtain ⟨hopen, hafter, _⟩ := lingers_iff.mp hfirst
      obtain ⟨hchosen, hmode'⟩ := ih (hs.act d) hopen hafter hrest
      exact ⟨hchosen.trans (hs.chosenTag?_of_lingers hmode hbefore hfirst), hmode'⟩

/-! ## Opening a picker -/

/-- Only keys go from one mode to another. -/
theorem step_mode {m : Move} (h : ∀ k, m ≠ .key k) : (s.step m).mode = s.mode := by
  cases m with
  | connect => rfl
  | startPolling => rfl
  | stopPolling => rfl
  | key k => exact absurd rfl (h k)
  | event now e =>
      cases e with
      | poll p => rfl
      | finished id error =>
          obtain ⟨outbox, heq⟩ := s.handle_finished now id error
          show (s.handle now (.finished id error)).mode = s.mode
          rw [heq]
  | take n => rfl
  | draw width height =>
      obtain ⟨searchBox, tagBox, dirty, heq⟩ := s.step_draw width height
      rw [heq]

theorem opened_of_press (hsearch : s.mode = .search) {k : KeyPress} (hmode : (s.press k).mode = .tag repo) :
    s.dashboard.selectedName? = some repo ∧ (s.press k).dashboard = s.dashboard := by
  have hpress : s.press k = if k.quits then s else s.pressSearch k := by
    unfold press
    rw [hsearch]
  rw [hpress] at hmode ⊢
  by_cases hquits : k.quits = true
  · rw [if_pos hquits, hsearch] at hmode
    cases hmode
  · rw [if_neg hquits] at hmode ⊢
    rcases (searched_pressSearch s k).mode_eq hsearch with hkept | hopened
    · rw [hkept] at hmode
      cases hmode
    · rw [hopened] at hmode ⊢
      rcases s.openPicker_cases with hnone | ⟨name, shown, hselected, hsome⟩
      · rw [hnone, hsearch] at hmode
        cases hmode
      · rw [hsome] at hmode ⊢
        cases hmode
        exact ⟨hselected, rfl⟩

/-- **A deed that opens a picker** opens that of the selected repository and leaves the dashboard as it is. -/
theorem opened_of_act (hsearch : s.mode = .search) {d : Deed} (hmode : (s.act d).mode = .tag repo) :
    s.dashboard.selectedName? = some repo ∧ (s.act d).dashboard = s.dashboard := by
  have hstays : s.mode ≠ .tag repo := by
    rw [hsearch]
    exact nofun
  cases d with
  | move m =>
      by_cases hkey : ∃ k, m = .key k
      · obtain ⟨k, rfl⟩ := hkey
        exact opened_of_press hsearch hmode
      · have hkept : (s.step m).mode = s.mode := step_mode fun k hk => hkey ⟨k, hk⟩
        exact absurd (hkept.symm.trans hmode) hstays
  | opening shown =>
      rw [Session.act, hsearch] at hmode ⊢
      cases hselected : s.dashboard.selectedName? with
      | none =>
          rw [hselected] at hmode
          exact absurd hmode hstays
      | some name =>
          rw [hselected] at hmode
          cases hmode
          exact ⟨rfl, rfl⟩
  | editing text shown =>
      rw [Session.act, hsearch] at hmode
      exact absurd hmode hstays

/-- The selected repository is in the index. -/
theorem Sane.contains_selected (hs : Sane s) (h : s.dashboard.selectedName? = some repo) :
    s.dashboard.index.contains repo = true := by
  rw [Dashboard.selectedName_eq] at h
  exact hs.board.derived.index_contains (Catalog.contains_iff_mem_names.mpr (List.mem_of_getElem? h))

/-- **An open picker is isolated.** In every state that a session can come into, whatever the picker's box does with
    keys: while the picker of `repo` is open, a key that does not end the session leaves the index, the displayed
    index, the query, the cursor, the commands under way, the other pickers and the outbox as they are. It changes the
    chosen tag of `repo` only to the record's current version, when it leaves the box empty, or, on Enter and Tab, to
    a tag of the record. So a stay in the picker, from the key that opens it to the one that leaves it, chooses
    nothing, whichever events come in between, as long as no key empties the box and the repository stays in the
    index. -/
theorem picker_isolated :
    (∀ s repo d key, Free s → s.mode = .tag repo → d.pickerKey? s = some key →
      OnlyPicker repo s (s.act d) ∧
      ((s.act d).chosenTag? repo = s.chosenTag? repo ∨
        (key = .edit "" ∧ ∃ record, s.dashboard.index.get? repo = some record ∧
          (s.act d).chosenTag? repo = some record.pinnedTagValue) ∨
        (key = .choose ∧ ∃ record tag, s.dashboard.index.get? repo = some record ∧ tag ∈ record.tags ∧
          (s.act d).chosenTag? repo = some tag))) ∧
    ∀ s repo first deeds last, Free s → s.mode = .search → (s.act first).mode = .tag repo →
      throughout (lingers repo) (s.act first) deeds = true →
      last.pickerKey? ((s.act first).acts deeds) = some .leave →
        (((s.act first).acts deeds).act last).chosenTag? repo = s.chosenTag? repo ∧
          (s.chosenTag? repo).isSome = true := by
  refine ⟨fun s repo d key hs hmode hkey => ?_, fun s repo first deeds last hs hsearch hopen hstay hleave => ?_⟩
  · have hpicked := picked_act hmode hkey
    exact ⟨hpicked.onlyPicker, hpicked.chosenTag? hs.sane hmode⟩
  · obtain ⟨hselected, hsame⟩ := opened_of_act hsearch hopen
    have hknown := hs.sane.contains_selected hselected
    have hopened : (s.act first).chosenTag? repo = s.chosenTag? repo := by
      unfold chosenTag?
      rw [hsame]
    obtain ⟨hkept, hmode⟩ := (hs.sane.act first).chosenTag?_of_stay hopen (hsame ▸ hknown) hstay
    have hleft := (picked_act hmode hleave).chosenTag?_of_leave
    refine ⟨hleft.trans (hkept.trans hopened), ?_⟩
    obtain ⟨picker, hpicker⟩ := hs.sane.board.equipped.picker hknown
    unfold chosenTag?
    rw [hpicker]
    rfl

/-- A stay in the picker of "api": typing, a poll that moves it to another version, and a step through the
    suggestions. -/
def sampleStay : List Deed :=
  [.editing "v" { lines := [['v']] },
   .move (.event "12:00:05" (.poll (.updated (Catalog.ofList
     [("api", { tags := ["v2", "v3"], pinnedTagValue := "v3" }), ("web", {})])))),
   .move (.key { key := .down })]

/-- Typing in the picker of "api" touches nothing else, and after the stay and Escape "v0" is still chosen. -/
theorem stay_keeps_v0 :
    OnlyPicker "api" (sampleSession.step (.key { key := .char 't', ctrl := true }))
        ((sampleSession.step (.key { key := .char 't', ctrl := true })).act (.editing "" {})) ∧
      ((sampleSession.act (.move (.key { key := .char 't', ctrl := true }))).acts sampleStay).completion.items =
        ["v2", "v3"] ∧
      (((sampleSession.act (.move (.key { key := .char 't', ctrl := true }))).acts sampleStay).act
        (.move (.key { key := .escape }))).chosenTag? "api" = some "v0" := by
  have hfree : Free sampleSession := sampleSession_reachable.free
  have hkey := (picker_isolated.1 (sampleSession.step (.key { key := .char 't', ctrl := true })) "api" (.editing "" {})
    (.edit "") (hfree.act (.move (.key { key := .char 't', ctrl := true }))) (by decide) rfl).1
  have hstay := picker_isolated.2 sampleSession "api" (.move (.key { key := .char 't', ctrl := true })) sampleStay
    (.move (.key { key := .escape })) hfree (by decide) (by decide) (by decide) (by decide)
  exact ⟨hkey, by decide, hstay.1.trans (by decide)⟩

end Session
end DeployBoard
