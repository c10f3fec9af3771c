import DeployBoard.Proofs.Dashboard.Cursor
import DeployBoard.Proofs.Dashboard.Pickers
import DeployBoard.Proofs.View

/-!
# `Proofs.Session.Selection` — what is highlighted is what is acted on

The list on the screen is made of texts. A row shows a tag, in its tag line and on its button, and whether
auto-deploy is on (`RowPlan.Shows`), and these can be read off the texts in one way only (`RowPlan.Shows.unique`).

The three keys for commands do not look at the row but at the cursor, the list, the pickers and the records.
`keys_act_on_highlighted_row` says that this is the same: in every state that a session can come into, each key
submits exactly the command that the row under the highlight offers, and nothing where there is no row.
-/

namespace DeployBoard

/-! ## What a row shows -/

/-- **The row shows a tag and a switch.** Its tag line names both, and its button the tag. -/
def RowPlan.Shows (row : RowPlan) (tag : String) (enabled : Bool) : Prop :=
  (∃ count : Nat, row.tagLine =
    "tag ◂ " ++ tag ++ " ▸  " ++ toString count ++ " tags  auto-deploy: " ++ (if enabled then "on" else "off")) ∧
    (row.action = "[Deploy " ++ tag ++ "]" ∨ row.action = "[Redeploy " ++ tag ++ "]")

/-- **A row shows one tag and one switch**, whatever characters the tag is made of. -/
theorem RowPlan.Shows.unique {row : RowPlan} {tag tag' : String} {enabled enabled' : Bool}
    (h : row.Shows tag enabled) (h' : row.Shows tag' enabled') : tag = tag' ∧ enabled = enabled' := by
  obtain ⟨⟨count, hline⟩, hbutton⟩ := h
  obtain ⟨⟨count', hline'⟩, hbutton'⟩ := h'
  constructor
  · -- The two forms of the button differ in their second letter, and each has the tag in one place.
    rcases hbutton with hbutton | hbutton <;> rcases hbutton' with hbutton' | hbutton' <;>
      rw [hbutton] at hbutton' <;> replace hbutton' := congrArg String.toList hbutton' <;>
      simp only [String.toList_append] at hbutton'
    · exact String.toList_inj.mp (List.append_cancel_left (List.append_cancel_right hbutton'))
    · exact absurd hbutton' (by simp)
    · exact absurd hbutton' (by simp)
    · exact String.toList_inj.mp (List.append_cancel_left (List.append_cancel_right hbutton'))
  · -- The tag line ends in the switch, and its two forms end in different letters.
    have hlast (b : Bool) : (if b then "on" else "off").toList.getLast? = some (if b then 'n' else 'f') := by
      cases b <;> rfl
    rw [hline] at hline'
    replace hline' := congrArg (fun s => s.toList.getLast?) hline'
    simp only [String.toList_append, List.getLast?_append, hlast, Option.some_or] at hline'
    cases enabled <;> cases enabled' <;> simp at hline' ⊢

/-! ## The row under the highlight -/

namespace Dashboard

variable {s : Dashboard}

/-- **Where something is listed, the cursor is on a row of it**, whose repository is in the index and has a picker. -/
theorem Reachable.selected (hs : Reachable s) (hlisted : s.display.isEmpty = false) :
    ∃ name record picker, s.selected? = some (name, record) ∧ s.index.contains name = true ∧
      s.pickers.get? name = some picker := by
  have hlt : s.cursor < s.display.entries.length := hs.anchored.cursor_lt hlisted
  rcases hentry : s.display.entries[s.cursor] with ⟨name, record⟩
  have hselected : s.selected? = some (name, record) := by
    unfold selected?
    rw [List.getElem?_eq_getElem hlt, hentry]
  have hlists : s.display.contains name = true :=
    Catalog.contains_of_get? (Catalog.get?_eq_some_iff.mpr (hentry ▸ List.getElem_mem hlt))
  have hknown := hs.derived.index_contains hlists
  obtain ⟨picker, hpicker⟩ := hs.equipped.picker hknown
  exact ⟨name, record, picker, hselected, hknown, hpicker⟩

/-- Where nothing is listed, the cursor is on nothing. -/
theorem selected?_of_isEmpty (hempty : s.display.isEmpty = true) : s.selected? = none := by
  unfold selected?
  rw [List.isEmpty_iff.mp hempty]
  rfl

/-- Before the first successful poll nothing is listed. -/
theorem Reachable.display_of_loading (hs : Reachable s) (hloading : s.loading = true) :
    s.display.isEmpty = true := by
  cases hlisted : s.display.isEmpty with
  | true => rfl
  | false =>
      obtain ⟨name, _, _, _, hknown, _⟩ := hs.selected hlisted
      rw [hs.index_of_loading hloading name] at hknown
      cases hknown

/-- A row shows the tag of its repository's picker and the switch of its record. -/
theorem rowPlan_shows {name : String} {picker : TagPicker} (hpicker : s.pickers.get? name = some picker)
    (record : Record) : (s.rowPlan name record).Shows picker.selected record.autoDeploy := by
  unfold rowPlan
  rw [hpicker]
  refine ⟨⟨record.tags.length, rfl⟩, ?_⟩
  show "[" ++ picker.actionLabel record ++ "]" = _ ∨ "[" ++ picker.actionLabel record ++ "]" = _
  unfold TagPicker.actionLabel
  split
  · exact .inr (by rw [← String.append_assoc]; rfl)
  · exact .inl (by rw [← String.append_assoc]; rfl)

end Dashboard

/-! ## Submitting -/

namespace Session

/-- **The command is submitted, once**: its repository is in the index, so that it is begun; it alone comes to be under
    way, under a number that no other has; and if there is a backend, it is sent once. -/
structure Submits (s t : Session) (c : Command) : Prop where
  known : s.dashboard.index.contains c.repo = true
  begun : s.dashboard.beginCommand c = (t.dashboard, some s.dashboard.nextId)
  pending : ∃ p : PendingCommand, p.id = s.dashboard.nextId ∧ p.command = c ∧
    t.dashboard.pending = s.dashboard.pending ++ [p]
  fresh : ∀ p ∈ s.dashboard.pending, p.id ≠ s.dashboard.nextId
  outbox : t.outbox = s.outbox ++ if s.connected then [.send s.dashboard.nextId c] else []

theorem submits_submit {s : Session} (hs : Dashboard.Reachable s.dashboard) {c : Command}
    (hknown : s.dashboard.index.contains c.repo = true) : Submits s (s.submit c) c := by
  obtain ⟨previous, hprevious⟩ := Option.isSome_iff_exists.mp hknown
  have hid : (s.dashboard.beginCommand c).2 = some s.dashboard.nextId := by
    unfold Dashboard.beginCommand
    rw [hprevious]
  have hdashboard : (s.submit c).dashboard = (s.dashboard.beginCommand c).1 := submit_dashboard s c
  refine ⟨hknown, Prod.ext hdashboard.symm hid, ?_, fun p hp => ?_, ?_⟩
  · refine ⟨⟨s.dashboard.nextId, c, previous, c.action.apply previous⟩, rfl, rfl, ?_⟩
    rw [hdashboard]
    unfold Dashboard.beginCommand
    rw [hprevious]
    exact Dashboard.refilter_pending _
  · exact Nat.ne_of_lt (hs.numbered.lt_nextId p hp)
  · unfold submit Dashboard.beginCommand
    rw [hprevious]
    simp only
    split <;> simp [ask]

/-- The keys for commands, while searching. -/
def commandKey (k : KeyPress) : Bool :=
  k.key = .enter || k.ctrl && (k.key = .char 'a' || k.key = .char 'r')

variable {s : Session} {k : KeyPress}

theorem press_enter (hmode : s.mode = .search) (hkey : k.key = .enter) :
    s.press k = s.submitSome s.dashboard.deployCommand? := by
  unfold press KeyPress.quits pressSearch
  simp [hkey, hmode]

theorem press_toggle (hmode : s.mode = .search) (hkey : k.key = .char 'a') (hctrl : k.ctrl = true) :
    s.press k = s.submitSome s.dashboard.toggleCommand? := by
  unfold press KeyPress.quits pressSearch searchShortcut?
  simp [hkey, hmode, hctrl]

theorem press_reset (hmode : s.mode = .search) (hkey : k.key = .char 'r') (hctrl : k.ctrl = true) :
    s.press k = s.submitSome s.dashboard.resetCommand? := by
  unfold press KeyPress.quits pressSearch searchShortcut?
  simp [hkey, hmode, hctrl]

/-- Where the cursor is on nothing, no key submits anything. -/
theorem press_of_nothing_selected (hmode : s.mode = .search) (hnone : s.dashboard.selected? = none)
    (hkey : commandKey k = true) : s.press k = s := by
  have hdeploy : s.dashboard.deployCommand? = none := by unfold Dashboard.deployCommand?; rw [hnone]; rfl
  have htoggle : s.dashboard.toggleCommand? = none := by unfold Dashboard.toggleCommand?; rw [hnone]; rfl
  have hreset : s.dashboard.resetCommand? = none := by unfold Dashboard.resetCommand?; rw [hnone]; rfl
  simp only [commandKey, Bool.or_eq_true, Bool.and_eq_true, decide_eq_true_eq] at hkey
  rcases hkey with henter | ⟨hctrl, ha | hr⟩
  · rw [press_enter hmode henter, hdeploy]; rfl
  · rw [press_toggle hmode ha hctrl, htoggle]; rfl
  · rw [press_reset hmode hr hctrl, hreset]; rfl

/-- The keys act on the row `row`, which shows `tag` and `enabled`. -/
structure ActsOn (s : Session) (row : RowPlan) (tag : String) (enabled : Bool) : Prop where
  enter : ∀ k : KeyPress, k.key = .enter →
    (tag = "" → s.press k = s) ∧ (tag ≠ "" → Submits s (s.press k) ⟨row.name, .deploy tag⟩)
  toggle : ∀ k : KeyPress, k.key = .char 'a' → k.ctrl = true →
    Submits s (s.press k) ⟨row.name, .setAutoDeploy !enabled⟩
  reset : ∀ k : KeyPress, k.key = .char 'r' → k.ctrl = true → Submits s (s.press k) ⟨row.name, .reset⟩

/-- **The keys act on the row that is made for the selected repository.** -/
theorem actsOn_selected (hs : Dashboard.Reachable s.dashboard) (hmode : s.mode = .search) {name : String}
    {record : Record} {picker : TagPicker} (hselected : s.dashboard.selected? = some (name, record))
    (hknown : s.dashboard.index.contains name = true) (hpicker : s.dashboard.pickers.get? name = some picker) :
    ActsOn s (s.dashboard.rowPlan name record) picker.selected record.autoDeploy := by
  have hname : (s.dashboard.rowPlan name record).name = name := rfl
  refine ⟨fun k hkey => ⟨fun htag => ?_, fun htag => ?_⟩, fun k hkey hctrl => ?_, fun k hkey hctrl => ?_⟩
  · have hnone : s.dashboard.deployCommand? = none := by
      unfold Dashboard.deployCommand?
      simp [hselected, hpicker, htag]
    rw [press_enter hmode hkey, hnone]
    rfl
  · have hsome : s.dashboard.deployCommand? = some ⟨name, .deploy picker.selected⟩ := by
      unfold Dashboard.deployCommand?
      simp [hselected, hpicker, htag]
    rw [press_enter hmode hkey, hsome, hname]
    exact submits_submit hs hknown
  · have hsome : s.dashboard.toggleCommand? = some ⟨name, .setAutoDeploy !record.autoDeploy⟩ := by
      unfold Dashboard.toggleCommand?
      rw [hselected]
      rfl
    rw [press_toggle hmode hkey hctrl, hsome, hname]
    exact submits_submit hs hknown
  · have hsome : s.dashboard.resetCommand? = some ⟨name, .reset⟩ := by
      unfold Dashboard.resetCommand?
      rw [hselected]
      rfl
    rw [press_reset hmode hkey hctrl, hsome, hname]
    exact submits_submit hs hknown

/-- **What is highlighted is what is acted on.** In every state that a session can come into, while searching: if
    the screen lists rows, the cursor is on one of them, and the keys for commands submit, once, what that row
    offers, read off its texts: Enter the deployment of the tag that it shows, if it shows one, Ctrl+A the
    opposite of its switch, and Ctrl+R the reset of its repository. If the screen lists no rows, they submit nothing. -/
theorem keys_act_on_highlighted_row {s : Session} (hs : s.Reachable) (hmode : s.mode = .search) (columns : Nat) :
    match (s.plan columns).body with
    | .rows rows =>
        s.dashboard.cursor < rows.length ∧ ∃ row, rows[s.dashboard.cursor]? = some row ∧
          (∃ tag enabled, row.Shows tag enabled) ∧ ∀ tag enabled, row.Shows tag enabled → s.ActsOn row tag enabled
    | _ => ∀ k, commandKey k = true → s.press k = s := by
  have hboard := hs.dashboard
  show match s.dashboard.bodyPlan with | .rows rows => _ | _ => _
  unfold Dashboard.bodyPlan
  cases hloading : s.dashboard.loading with
  | true =>
      have hnone := Dashboard.selected?_of_isEmpty (hboard.display_of_loading hloading)
      exact fun k hkey => press_of_nothing_selected hmode hnone hkey
  | false =>
      cases hlisted : s.dashboard.display.isEmpty with
      | true =>
          have hnone := Dashboard.selected?_of_isEmpty hlisted
          exact fun k hkey => press_of_nothing_selected hmode hnone hkey
      | false =>
          obtain ⟨name, record, picker, hselected, hknown, hpicker⟩ := hboard.selected hlisted
          have hrow : (s.dashboard.display.entries.map fun entry =>
              s.dashboard.rowPlan entry.1 entry.2)[s.dashboard.cursor]? = some (s.dashboard.rowPlan name record) := by
            rw [List.getElem?_map]
            exact congrArg (Option.map _) hselected
          refine ⟨(List.getElem?_eq_some_iff.mp hrow).1, _, hrow, ?_, ?_⟩
          · exact ⟨_, _, Dashboard.rowPlan_shows hpicker record⟩
          · intro tag enabled hshows
            obtain ⟨rfl, rfl⟩ := hshows.unique (Dashboard.rowPlan_shows hpicker record)
            exact actsOn_selected hboard hmode hselected hknown hpicker

/-- In the second row of two, Enter deploys the tag of that row, and Ctrl+A turns its switch on. -/
theorem keys_act_on_second_row :
    (sampleSession.step (.key { key := .down })).mode = .search ∧
      Submits (sampleSession.step (.key { key := .down }))
        ((sampleSession.step (.key { key := .down })).press { key := .enter }) ⟨"web", .deploy "r-0"⟩ ∧
      Submits (sampleSession.step (.key { key := .down }))
        ((sampleSession.step (.key { key := .down })).press { key := .char 'a', ctrl := true })
        ⟨"web", .setAutoDeploy true⟩ := by
  have hmode : (sampleSession.step (.key { key := .down })).mode = .search := by decide
  have hbody : ((sampleSession.step (.key { key := .down })).plan 80).body = .rows
      [⟨"api", "Latest version: v0", "tag ◂ v0 ▸  2 tags  auto-deploy: on", "[Redeploy v0]", false, none⟩,
       ⟨"web", "r-0", "tag ◂ r-0 ▸  1 tags  auto-deploy: off", "[Redeploy r-0]", false, none⟩] := by decide
  have hkeys := keys_act_on_highlighted_row (sampleSession_reachable.step (.key { key := .down })) hmode 80
  rw [hbody] at hkeys
  obtain ⟨_, row, hrow, _, hacts⟩ := hkeys
  have hcursor : (sampleSession.step (.key { key := .down })).dashboard.cursor = 1 := by decide
  rw [hcursor] at hrow
  cases hrow
  have hweb := hacts "r-0" false ⟨⟨1, by decide⟩, .inr (by decide)⟩
  exact ⟨hmode, (hweb.enter _ rfl).2 (by decide), hweb.toggle _ rfl rfl⟩

end Session
end DeployBoard
