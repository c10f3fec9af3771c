import DeployBoard.Proofs.Session.Picker
import DeployBoard.Proofs.TextBox.Refill

/-!
# `Proofs.Session.TagBox` — the picker's box and the picker's input

All repositories share one box. The key that opens a picker empties it, as far as `clearLine` does, and puts the
picker's input in; after that a key that goes to the box is copied to the picker, and a box that it leaves empty gets
the record's current version, as the picker does. Nothing else changes either of the two, as long as the repository
stays.

A **fill** is what a move puts into the box, if it does so (`fill?`), and `Refilled` says what each leaves there. So
the last fill since the picker was opened tells both texts (`FilledBy`), and whether they are the same: always after a
key that left something in the box, without a line break in the version after one that did not, and on opening if
the box comes out empty and the input has no line break (`tagBox_shows_input_iff`).
-/

namespace DeployBoard
namespace Session

variable {s t : Session} {repo : String}

/-- The text of a repository's picker. -/
def input? (s : Session) (repo : String) : Option String := (s.dashboard.pickers.get? repo).map (·.input)

/-! ## Fills of the picker's box -/

/-- **What is put into the picker's box.** -/
inductive Fill where
  /-- The picker is opened: its input, after `box` was emptied. -/
  | opened (box : TextBox) (input : String)
  /-- A key leaves `text` in the box. -/
  | typed (text : String)
  /-- The current version, in place of nothing. -/
  | emptied (version : String)
  deriving DecidableEq

/-- The input that the picker has then. -/
def Fill.input : Fill → String
  | .opened _ input => input
  | .typed text => text
  | .emptied version => version

/-- **The box shows that input**, and nothing else. -/
def Fill.Shown : Fill → Prop
  | .opened box input => (box.clearLine.insertText input).text = input
  | .typed _ => True
  | .emptied version => TextBox.Unbroken version

/-- What a key that opens a picker puts into the box. -/
def openingFill? (s : Session) (k : KeyPress) : Option Fill :=
  match (s.pressSearch k).mode with
  | .search => none
  | .tag repo => some (.opened s.tagBox ((s.input? repo).getD ""))

/-- What a key in the open picker of `repo` puts into the box. -/
def editingFill? (s : Session) (repo : String) : PickerKey → Option Fill
  | .edit text =>
    if text = "" then some (.emptied (((s.dashboard.index.get? repo).map (·.pinnedTagValue)).getD ""))
    else some (.typed text)
  | _ => none

/-- **What a move puts into the box**, if anything. -/
def fill? (s : Session) : Move → Option Fill
  | .key k =>
    if k.quits then none
    else
      match s.mode with
      | .search => s.openingFill? k
      | .tag repo => s.editingFill? repo (s.pickerKey k)
  | _ => none

/-- **All fills of a run**, oldest first. -/
def fills : Session → List Move → List Fill
  | _, [] => []
  | s, m :: moves => (s.fill? m).toList ++ (s.step m).fills moves

/-- **What a fill leaves in the box.** Without one, the box keeps its text, its places and its edits. -/
inductive Refilled (s t : Session) : Option Fill → Prop where
  | kept (viewport : TextBox.Viewport) (hbox : t.tagBox = { s.tagBox with viewport }) : Refilled s t none
  | opened (input : String) (hbox : t.tagBox = s.tagBox.clearLine.insertText input) :
      Refilled s t (some (.opened s.tagBox input))
  | typed (k : KeyPress) (hbox : t.tagBox = s.tagBox.press k) :
      Refilled s t (some (.typed (s.tagBox.press k).text))
  | emptied (k : KeyPress) (version : String) (hempty : (s.tagBox.press k).text = "")
      (hbox : t.tagBox = (s.tagBox.press k).insertText version) : Refilled s t (some (.emptied version))

/-! ## Every move fills the box as told -/

theorem refilled_of_eq (hbox : t.tagBox = s.tagBox) : Refilled s t none := .kept s.tagBox.viewport hbox

theorem refilled_openPicker (hsearch : s.mode = .search) :
    Refilled s s.openPicker
      (match s.openPicker.mode with
        | .search => none
        | .tag repo => some (.opened s.tagBox ((s.input? repo).getD ""))) := by
  unfold openPicker
  cases s.dashboard.selectedName? with
  | none =>
      simp only [hsearch]
      exact refilled_of_eq rfl
  | some repo => exact .opened _ rfl

theorem refilled_pressSearch (hsearch : s.mode = .search) (k : KeyPress) :
    Refilled s (s.pressSearch k) (s.openingFill? k) := by
  unfold openingFill?
  rcases (searched_pressSearch s k).kept_or_opened with ⟨hmode, hbox⟩ | hopened
  · rw [hmode, hsearch]
    exact refilled_of_eq hbox
  · rw [hopened]
    exact refilled_openPicker hsearch

/-- The input of an emptied picker is the record's current version. -/
theorem input_of_emptied (hs : Sane s) (repo : String) :
    (((s.dashboard.setTagInput repo "").pickers.get? repo).map (·.input)).getD "" =
      ((s.dashboard.index.get? repo).map (·.pinnedTagValue)).getD "" := by
  cases hrecord : s.dashboard.index.get? repo with
  | none =>
      have hnone : s.dashboard.pickers.get? repo = none := by
        have hgone : s.dashboard.index.contains repo = false := by
          unfold Catalog.contains
          rw [hrecord]
          rfl
        rw [← hs.board.equipped repo] at hgone
        exact Option.not_isSome_iff_eq_none.mp (Bool.not_eq_true _ ▸ hgone)
      rw [Dashboard.setTagInput_of_unknown hrecord, hnone]
      rfl
  | some record =>
      obtain ⟨picker, hpicker⟩ := hs.picker hrecord
      rw [Dashboard.setTagInput_of_known hrecord]
      simp only [Catalog.get?_modify, if_pos, hpicker, Option.map_some, TagPicker.setInput_empty]
      rfl

theorem refilled_typePicker (hs : Sane s) (repo : String) (k : KeyPress) :
    Refilled s (s.typePicker repo k)
      (if (s.tagBox.press k).text = "" then
        some (.emptied (((s.dashboard.index.get? repo).map (·.pinnedTagValue)).getD ""))
      else some (.typed (s.tagBox.press k).text)) := by
  unfold typePicker
  by_cases hempty : (s.tagBox.press k).text = ""
  · rw [if_pos hempty]
    apply Refilled.emptied k _ hempty
    have hinput := input_of_emptied hs repo
    rw [← hinput]
    simp only [hempty, if_pos]
    rfl
  · rw [if_neg hempty]
    apply Refilled.typed k
    simp only [hempty, if_neg, not_false_eq_true]
    rfl

theorem choosePicked_tagBox (s : Session) (repo : String) : (s.choosePicked repo).tagBox = s.tagBox := by
  unfold choosePicked
  simp only
  split
  · rfl
  · rfl

theorem refilled_pressPicker (hs : Sane s) (repo : String) (k : KeyPress) :
    Refilled s (s.pressPicker repo k) (s.editingFill? repo (s.pickerKey k)) := by
  unfold pressPicker pickerKey
  cases k.key with
  | escape => exact refilled_of_eq rfl
  | up => exact refilled_of_eq rfl
  | down => exact refilled_of_eq rfl
  | enter => exact refilled_of_eq (choosePicked_tagBox s repo)
  | tab => exact refilled_of_eq (choosePicked_tagBox s repo)
  | char | backspace | delete | left | right | home | «end» | pageUp | pageDown | function | other =>
      exact refilled_typePicker hs repo k

/-- **Every move fills the box as told.** -/
theorem refilled_step (hs : Sane s) (m : Move) : Refilled s (s.step m) (s.fill? m) := by
  cases m with
  | connect => exact refilled_of_eq rfl
  | startPolling => exact refilled_of_eq rfl
  | stopPolling => exact refilled_of_eq rfl
  | key k =>
      show Refilled s (s.press k) (s.fill? (.key k))
      unfold press fill?
      simp only
      split
      · exact refilled_of_eq rfl
      · cases hmode : s.mode with
        | search => exact refilled_pressSearch hmode k
        | tag repo => exact refilled_pressPicker hs repo k
  | event now e =>
      cases e with
      | poll p => exact refilled_of_eq rfl
      | finished id error =>
          obtain ⟨outbox, heq⟩ := s.handle_finished now id error
          show Refilled s (s.handle now (.finished id error)) none
          rw [heq]
          exact refilled_of_eq rfl
  | take n => exact refilled_of_eq rfl
  | draw width height =>
      show Refilled s (s.step (.draw width height)) none
      unfold step
      simp only
      split
      · rename_i drawn hdraw
        obtain ⟨area, rfl⟩ := draw_eq hdraw
        unfold withActiveBox activeBox
        cases s.mode with
        | search => exact refilled_of_eq rfl
        | tag repo => exact .kept _ rfl
      · exact refilled_of_eq rfl

/-! ## What is in the box -/

variable {what : Option Fill}

theorem Refilled.sound (h : Refilled s t what) (hs : s.tagBox.Sound) : t.tagBox.Sound := by
  cases h with
  | kept viewport hbox => rw [hbox]; exact hs.withViewport viewport
  | opened input hbox => rw [hbox]; exact hs.clearLine.insertText input
  | typed k hbox => rw [hbox]; exact hs.press k
  | emptied k version _ hbox => rw [hbox]; exact (hs.press k).insertText version

/-- The picker's box is sound in every state. -/
theorem Reachable.tagBox_sound (h : Reachable s) : s.tagBox.Sound :=
  reachable_induction (P := fun s => s.tagBox.Sound) (fun _ _ _ => TextBox.sound_empty)
    (fun _ m hreach hs => (refilled_step hreach.free.sane m).sound hs) h

/-- **The box shows the input that it was filled with**, or not, as the fill says. -/
theorem Refilled.shown {fill : Fill} (h : Refilled s t (some fill)) (hs : s.tagBox.Sound) :
    t.tagBox.text = fill.input ↔ fill.Shown := by
  cases h with
  | opened input hbox =>
      rw [hbox]
      exact Iff.rfl
  | typed k hbox =>
      rw [hbox]
      exact iff_of_true rfl trivial
  | emptied k version hempty hbox =>
      have hsound := hs.press k
      rw [hbox]
      exact hsound.insertText_of_empty (hsound.selection?_of_empty hempty) hempty version

theorem Refilled.text_of_none (h : Refilled s t none) : t.tagBox.text = s.tagBox.text := by
  cases h with
  | kept viewport hbox => rw [hbox]; rfl

/-! ## What is in the picker -/

/-- A key that opens a picker fills the box with the picker's input. -/
theorem fill?_of_opening (hsearch : s.mode = .search) {k : KeyPress} (hmode : (s.press k).mode = .tag repo) :
    s.fill? (.key k) = some (.opened s.tagBox ((s.input? repo).getD "")) := by
  unfold press at hmode
  unfold fill?
  rw [hsearch] at hmode
  by_cases hquits : k.quits = true
  · rw [if_pos hquits, hsearch] at hmode
    cases hmode
  · rw [if_neg hquits] at hmode
    simp only [if_neg hquits, hsearch, openingFill?, hmode]

/-- In an open picker only keys that the picker takes fill the box. -/
theorem fill?_of_tag (hmode : s.mode = .tag repo) (m : Move) :
    s.fill? m = ((Deed.move m).pickerKey? s).bind (s.editingFill? repo) := by
  cases m with
  | key k =>
      unfold fill? Deed.pickerKey?
      by_cases hquits : k.quits = true
      · simp only [if_pos hquits, Option.bind_none]
      · simp only [if_neg hquits, hmode, Option.bind_some]
  | connect | startPolling | stopPolling | event | take | draw => rfl

/-- **The picker has the input of the fill.** -/
theorem Picked.input_eq {key : PickerKey} (h : Picked s repo t key) (hs : Sane s) (hmode : t.mode = .tag repo)
    (hknown : s.dashboard.index.contains repo = true) :
    t.input? repo = ((s.editingFill? repo key).map Fill.input).or (s.input? repo) := by
  cases h with
  | left => cases hmode
  | browsed => rfl
  | chose => cases hmode
  | choseNothing => cases hmode
  | edited text shown =>
      obtain ⟨record, hrecord⟩ := Option.isSome_iff_exists.mp hknown
      obtain ⟨picker, hpicker⟩ := hs.picker hrecord
      show ((s.dashboard.setTagInput repo text).pickers.get? repo).map (·.input) = _
      rw [Dashboard.setTagInput_of_known hrecord]
      simp only [Catalog.get?_modify, if_pos, hpicker, Option.map_some]
      unfold TagPicker.setInput editingFill?
      by_cases hempty : text = ""
      · simp only [if_pos hempty, hrecord]
        rfl
      · simp only [if_neg hempty]
        rfl

/-- **In an open picker a move that fills the box leaves the same in the picker**, and any other leaves it alone, as
    long as the repository stays. -/
theorem Sane.input_step (hs : Sane s) (hmode : s.mode = .tag repo)
    (hbefore : s.dashboard.index.contains repo = true) {m : Move} (hopen : (s.step m).mode = .tag repo)
    (hafter : (s.step m).dashboard.index.contains repo = true) :
    (s.step m).input? repo = ((s.fill? m).map Fill.input).or (s.input? repo) := by
  rw [fill?_of_tag hmode]
  cases hkey : (Deed.move m).pickerKey? s with
  | none => exact congrArg (Option.map _) (hs.picker_of_no_key (d := .move m) hmode hkey hbefore hafter)
  | some key =>
      have hpicked : Picked s repo (s.step m) key := picked_act hmode hkey
      exact hpicked.input_eq hs hopen hbefore

/-! ## A stay in the picker -/

/-- **The picker of `repo` is open**, and what is in its box and its input was put there by `fill`. -/
structure FilledBy (repo : String) (s : Session) (fill : Fill) : Prop where
  mode : s.mode = .tag repo
  known : s.dashboard.index.contains repo = true
  input : s.input? repo = some fill.input
  shown : s.tagBox.text = fill.input ↔ fill.Shown
  sound : ∀ box input, fill = .opened box input → box.Sound

/-- **The key that opens the picker** fills the box. -/
theorem Reachable.filledBy_opened (h : Reachable s) (hsearch : s.mode = .search) {k : KeyPress}
    (hmode : (s.press k).mode = .tag repo) :
    FilledBy repo (s.press k) (.opened s.tagBox ((s.input? repo).getD "")) := by
  obtain ⟨hselected, hsame⟩ := opened_of_press hsearch hmode
  have hknown := h.free.sane.contains_selected hselected
  have hrefilled := refilled_step h.free.sane (.key k)
  rw [fill?_of_opening hsearch hmode] at hrefilled
  refine ⟨hmode, hsame ▸ hknown, ?_, hrefilled.shown h.tagBox_sound, ?_⟩
  · obtain ⟨picker, hpicker⟩ := h.free.sane.board.equipped.picker hknown
    unfold input?
    rw [hsame, hpicker]
    rfl
  · intro box input heq
    cases heq
    exact h.tagBox_sound

/-- **A move of a stay** keeps the last fill, or is the last fill. -/
theorem FilledBy.step {fill : Fill} (h : FilledBy repo s fill) (hreach : Reachable s) {m : Move}
    (hopen : (s.step m).mode = .tag repo) (hafter : (s.step m).dashboard.index.contains repo = true) :
    FilledBy repo (s.step m) ((s.fill? m).getD fill) := by
  have hsane := hreach.free.sane
  have hrefilled := refilled_step hsane m
  have hinput := hsane.input_step h.mode h.known hopen hafter
  cases hfill : s.fill? m with
  | none =>
      rw [hfill] at hrefilled hinput
      refine ⟨hopen, hafter, hinput.trans h.input, ?_, h.sound⟩
      rw [hrefilled.text_of_none]
      exact h.shown
  | some next =>
      rw [hfill] at hrefilled hinput
      refine ⟨hopen, hafter, hinput, hrefilled.shown hreach.tagBox_sound, ?_⟩
      intro box input heq
      cases hrefilled with
      | opened => cases heq; exact hreach.tagBox_sound
      | typed => cases heq
      | emptied => cases heq

/-- `P` holds before the first of the moves, and after each. -/
def Always (P : Session → Prop) : Session → List Move → Prop
  | s, [] => P s
  | s, m :: moves => P s ∧ Always P (s.step m) moves

theorem Always.head {P : Session → Prop} {moves : List Move} (h : Always P s moves) : P s := by
  cases moves with
  | nil => exact h
  | cons m moves => exact h.1

theorem always_concat {P : Session → Prop} {moves : List Move} {m : Move} :
    Always P s (moves ++ [m]) ↔ Always P s moves ∧ P ((s.run moves).step m) := by
  induction moves generalizing s with
  | nil => exact Iff.rfl
  | cons first moves ih =>
      show P s ∧ Always P (s.step first) (moves ++ [m]) ↔ (P s ∧ Always P (s.step first) moves) ∧ _
      rw [ih, and_assoc]
      exact Iff.rfl

/-- **The last fill of a stay tells what is shown after it.** -/
theorem FilledBy.run {fill : Fill} {moves : List Move} (h : FilledBy repo s fill) (hreach : Reachable s)
    (hstay : Always (fun u => u.mode = .tag repo ∧ u.dashboard.index.contains repo = true) s moves) :
    FilledBy repo (s.run moves) ((s.fills moves).getLast?.getD fill) := by
  induction moves generalizing s fill with
  | nil => exact h
  | cons m moves ih =>
      obtain ⟨_, hrest⟩ := hstay
      obtain ⟨hopen, hknown⟩ := hrest.head
      have hrun := ih (h.step hreach hopen hknown) (hreach.step m) hrest
      show FilledBy repo ((s.step m).run moves) (((s.fill? m).toList ++ (s.step m).fills moves).getLast?.getD fill)
      rw [getLast?_toList_append, Option.getD_or]
      exact hrun

/-! ## Every open picker was opened -/

theorem Picked.mode_eq {key : PickerKey} (h : Picked s repo t key) (hmode : s.mode = .tag repo) :
    t.mode = .tag repo ∨ t.mode = .search := by
  cases h with
  | left => exact .inr rfl
  | browsed => exact .inl hmode
  | chose => exact .inr rfl
  | choseNothing => exact .inr rfl
  | edited => exact .inl hmode

/-- While a picker is open, a move leaves its mode or goes back to the search. -/
theorem mode_of_step (hmode : s.mode = .tag repo) (m : Move) :
    (s.step m).mode = .tag repo ∨ (s.step m).mode = .search := by
  by_cases hkey : ∃ k, m = .key k
  · obtain ⟨k, rfl⟩ := hkey
    show (s.press k).mode = _ ∨ (s.press k).mode = _
    unfold press
    by_cases hquits : k.quits = true
    · rw [if_pos hquits]
      exact .inl hmode
    · rw [if_neg hquits, hmode]
      exact (picked_pressPicker s repo k).mode_eq hmode
  · rw [step_mode fun k hk => hkey ⟨k, hk⟩]
    exact .inl hmode

/-- The picker of `repo` that is open in `t` was opened by a key, and has stayed open since. -/
def WasOpened (repo : String) (t : Session) : Prop :=
  ∃ s k after, Reachable s ∧ s.mode = .search ∧ (s.press k).run after = t ∧
    Always (fun u => u.mode = .tag repo) (s.press k) after

theorem wasOpened_step (hreach : Reachable t) (h : t.mode = .tag repo → WasOpened repo t) (m : Move)
    (hmode : (t.step m).mode = .tag repo) : WasOpened repo (t.step m) := by
  cases hbefore : t.mode with
  | search =>
      by_cases hkey : ∃ k, m = .key k
      · obtain ⟨k, rfl⟩ := hkey
        exact ⟨t, k, [], hreach, hbefore, rfl, hmode⟩
      · have hkept : (t.step m).mode = t.mode := step_mode fun k hk => hkey ⟨k, hk⟩
        rw [hkept, hbefore] at hmode
        cases hmode
  | tag name =>
      have hname : name = repo := by
        rcases mode_of_step hbefore m with hsame | hleft
        · exact Mode.tag.inj (hsame.symm.trans hmode)
        · rw [hleft] at hmode
          cases hmode
      subst hname
      obtain ⟨s, k, after, hs, hsearch, hrun, hstay⟩ := h hbefore
      subst hrun
      refine ⟨s, k, after ++ [m], hs, hsearch, List.foldl_append .., ?_⟩
      exact always_concat.mpr ⟨hstay, hmode⟩

/-- **A picker that is open was opened by a key**, and has stayed open since. -/
theorem Reachable.wasOpened (h : Reachable t) : t.mode = .tag repo → WasOpened repo t :=
  reachable_induction (P := fun t => t.mode = .tag repo → WasOpened repo t) (fun _ _ _ hmode => nomatch hmode)
    (fun _ m hreach hopened => wasOpened_step hreach hopened m) h

/-- **When the picker's box shows the picker's input.** Every open picker was opened by a key while searching, and has
    been open since. If its repository has stayed in the index since then, it has a picker, whose input was put there
    by the last fill since, and the box shows that input just when the fill says so: on opening, when the emptied box
    filled with the input shows it; always after a key that leaves a text; and after one that leaves none when the
    record's current version has no line break. On opening, an input without a line break is shown just when two
    deletions empty the box that was left, and an emptied box shows the input just when that has no line break. So a
    box that was left with one line and nothing selected shows every input without a line break. -/
theorem tagBox_shows_input_iff (h : Reachable t) (hmode : t.mode = .tag repo) :
    WasOpened repo t ∧
    ∀ s k after, Reachable s → s.mode = .search → (s.press k).run after = t →
      Always (fun u => u.mode = .tag repo ∧ u.dashboard.index.contains repo = true) (s.press k) after →
        ∃ last picker, (s.fills (.key k :: after)).getLast? = some last ∧
          t.dashboard.pickers.get? repo = some picker ∧ picker.input = last.input ∧
          (t.tagBox.text = picker.input ↔ last.Shown) ∧
          ∀ box input, last = .opened box input →
            (TextBox.Unbroken input → (last.Shown ↔ box.TwoDeletionsEmpty)) ∧
              (box.TwoDeletionsEmpty → (last.Shown ↔ TextBox.Unbroken input)) ∧
              (box.lines.length = 1 → box.selection? = none → TextBox.Unbroken input → last.Shown) := by
  refine ⟨h.wasOpened hmode, ?_⟩
  intro s k after hs hsearch hrun hstay
  subst hrun
  obtain ⟨hopen, _⟩ := hstay.head
  have hfirst := fill?_of_opening hsearch hopen
  have hfilled := (hs.filledBy_opened hsearch hopen).run (hs.step (.key k)) hstay
  have hlast : (s.fills (.key k :: after)).getLast? =
      some (((s.press k).fills after).getLast?.getD (.opened s.tagBox ((s.input? repo).getD ""))) := by
    show ((s.fill? (.key k)).toList ++ (s.press k).fills after).getLast? = _
    rw [hfirst, getLast?_toList_append, Option.or_some]
  obtain ⟨picker, hpicker, hinput⟩ := Option.map_eq_some_iff.mp hfilled.input
  refine ⟨_, picker, hlast, hpicker, hinput, ?_, ?_⟩
  · rw [hinput]
    exact hfilled.shown
  · intro box input heq
    have hsound := hfilled.sound box input heq
    rw [heq]
    refine ⟨fun hinput => hsound.refill_iff_twoDeletionsEmpty hinput,
      fun hempty => hsound.refill_iff_unbroken hempty input, ?_⟩
    intro hline hnone hunbroken
    have hempty := hsound.twoDeletionsEmpty_of_one_line hline hnone
    exact (hsound.refill_iff_unbroken hempty input).mpr hunbroken

/-- The key that opens a picker. -/
def openingKey : KeyPress := { key := .char 't', ctrl := true }

/-- In the picker of "api" the last character of "v0" is deleted, and then a poll moves "api" to another version. -/
def sampleTyping : List Move :=
  [.key { key := .backspace },
   .event "12:00:05" (.poll (.updated (Catalog.ofList [("api", { tags := ["v3"], pinnedTagValue := "v3" })])))]

/-- Both the box and the picker keep what was typed. -/
theorem tagBox_shows_typed :
    ((sampleSession.press openingKey).run sampleTyping).mode = .tag "api" ∧
    WasOpened "api" ((sampleSession.press openingKey).run sampleTyping) ∧
    ∃ picker, ((sampleSession.press openingKey).run sampleTyping).dashboard.pickers.get? "api" = some picker ∧
      picker.input = "v" ∧ ((sampleSession.press openingKey).run sampleTyping).tagBox.text = picker.input := by
  have hreach : Reachable ((sampleSession.press openingKey).run sampleTyping) :=
    (sampleSession_reachable.step (.key openingKey)).run sampleTyping
  have hopen : (sampleSession.press openingKey).mode = .tag "api" ∧
      (sampleSession.press openingKey).dashboard.index.contains "api" = true := by decide +kernel
  have htyping : ((sampleSession.press openingKey).run sampleTyping).mode = .tag "api" ∧
      ((sampleSession.press openingKey).run sampleTyping).dashboard.index.contains "api" = true := by decide +kernel
  obtain ⟨hopened, hshows⟩ := tagBox_shows_input_iff hreach htyping.1
  obtain ⟨last, picker, hlast, hpicker, hinput, hiff, _⟩ := hshows sampleSession openingKey sampleTyping
    sampleSession_reachable (by decide) rfl ⟨hopen, by decide +kernel, htyping⟩
  have hfills : (sampleSession.fills (.key openingKey :: sampleTyping)).getLast? = some (.typed "v") := by
    decide +kernel
  have htyped : last = .typed "v" := Option.some.inj (hlast.symm.trans hfills)
  rw [htyped] at hinput hiff
  exact ⟨htyping.1, hopened, picker, hpicker, hinput, hiff.mpr trivial⟩

/-- **A line break in the box outlives the picker**: the key that opens it again puts the input behind what is left. -/
theorem tagBox_keeps_line_break :
    ∃ s : Session, s = (sampleSession.press openingKey).run
        [.key { key := .char 'm', ctrl := true }, .key { key := .escape }, .key openingKey] ∧
      s.mode = .tag "api" ∧ s.dashboard.index.contains "api" = true ∧ s.input? "api" = some "v0 " ∧
      s.tagBox.text = "v0v0 " := by
  refine ⟨_, rfl, ?_, ?_, ?_, ?_⟩
  · decide +kernel
  · decide +kernel
  · decide +kernel
  · decide +kernel

end Session
end DeployBoard
