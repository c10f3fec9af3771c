import DeployBoard.Proofs.Session.Popup
import DeployBoard.Session.View

/-!
# `Proofs.Session.PopupArea` — where the popup stands

The popup should stand right above the box that is typed into, four columns wider than its longest suggestion and two rows
higher than their number, as far as the screen has room for it (`PopupFits`). There are never more than eight suggestions,
so its height and its place are right on every screen. Its width is computed in a word of 16 bits from a length that is cut
down to such a word first, and how long a suggestion is, the backend decides.

So `popup_fits_iff`: the popup is as it should be exactly when the longest suggestion leaves the word room for four columns
more. Beyond that the popup is too narrow or, for the last four lengths that a word has, there is none, and no screen.
-/

namespace DeployBoard

open Screen Text

/-- **The number of characters of the longest suggestion.** -/
def longest (items : List String) : Nat := (items.map (·.length)).max?.getD 0

/-- **An area on a screen** whose columns and rows are counted in words of 16 bits. -/
structure Screen.Area.OnScreen (a : Area) (columns rows : Nat) : Prop where
  columns_lt : columns < 0x10000
  rows_lt : rows < 0x10000
  width_pos : 1 ≤ a.width
  right_le : a.right ≤ columns
  bottom_le : a.bottom ≤ rows

/-- **The popup is on the screen**, right above the box and one column in from its left. -/
structure StandsAbove (popup input : Area) (columns rows : Nat) : Prop where
  x : popup.x = input.x + 1
  x_lt : popup.x < 0x10000
  bottom : popup.bottom = input.y
  right_le : popup.right ≤ columns
  bottom_le : popup.bottom ≤ rows

/-- **The popup is as it should be**: no length is cut down to its word, all sums fit theirs, and the popup stands above the
    box in the size that its suggestions need, or that there is room for. -/
structure PopupFits (items : List String) (input : Area) (columns rows : Nat) : Prop where
  uncut : longest items % 0x10000 = longest items ∧ items.length % 0x10000 = items.length
  area : ∃ a, popupArea items input = .ok a ∧ a.width = min (longest items + 4) (input.width - 1) ∧
    a.height = min (items.length + 2) input.y ∧ StandsAbove a input columns rows

variable {items : List String} {input : Area} {columns rows : Nat}

/-! ## The sums -/

theorem longest_singleton (item : String) : longest [item] = item.length := rfl

/-- Among suggestions there is a longest, so that the default for none does not come in. -/
theorem max?_getD_eq_longest (h : items ≠ []) (default : Nat) :
    (items.map (·.length)).max?.getD default = longest items := by
  have hsome : (items.map (·.length)).max?.isSome := by
    rw [List.isSome_max?_iff]
    exact fun hnil => h (List.map_eq_nil_iff.mp hnil)
  obtain ⟨n, hn⟩ := Option.isSome_iff_exists.mp hsome
  rw [longest, hn]
  rfl

/-- **Where the width fits its word there is a popup**, and this is its area. -/
theorem popupArea_of_lt (hitems : items ≠ []) (hfew : items.length ≤ maxSuggestions)
    (hwidth : longest items % 0x10000 + 4 < 0x10000) (input : Area) :
    popupArea items input = .ok
      { x := input.x + 1
        y := input.y - min (items.length + 2) input.y
        width := min (longest items % 0x10000 + 4) (input.width - 1)
        height := min (items.length + 2) input.y } := by
  have hsmall : items.length < 0x10000 := Nat.lt_of_le_of_lt hfew (by decide)
  have hheight : items.length + 2 < 0x10000 := Nat.lt_of_le_of_lt (Nat.add_le_add_right hfew 2) (by decide)
  unfold popupArea
  simp only [max?_getD_eq_longest hitems, Nat.mod_eq_of_lt hsmall, addUnsigned16_of_lt hwidth,
    addUnsigned16_of_lt hheight]
  rfl

/-- **Where it does not there is none.** -/
theorem popupArea_of_le (hitems : items ≠ []) (hwidth : 0x10000 ≤ longest items % 0x10000 + 4) (input : Area) :
    popupArea items input = .error {} := by
  unfold popupArea
  simp only [max?_getD_eq_longest hitems, addUnsigned16_of_le hwidth]
  rfl

/-- There is a popup exactly where the width fits its word. -/
theorem popupArea_eq_error_iff (hitems : items ≠ []) (hfew : items.length ≤ maxSuggestions) :
    popupArea items input = .error {} ↔ 0x10000 ≤ longest items % 0x10000 + 4 := by
  refine ⟨fun herror => ?_, fun hwidth => popupArea_of_le hitems hwidth input⟩
  by_contra hwidth
  rw [popupArea_of_lt hitems hfew (Nat.lt_of_not_le hwidth)] at herror
  cases herror

/-! ## The place -/

/-- **An area on top of the box**, no wider than the box without its first column, is on the screen. -/
theorem standsAbove (hinput : input.OnScreen columns rows) {width height : Nat} (hwidth : width ≤ input.width - 1)
    (hheight : height ≤ input.y) :
    StandsAbove { x := input.x + 1, y := input.y - height, width, height } input columns rows := by
  obtain ⟨hcolumns, _, hpos, hright, hbottom⟩ := hinput
  unfold Area.right at hright
  unfold Area.bottom at hbottom
  constructor <;> simp only [Area.right, Area.bottom] <;> omega

/-- **A popup stands where it should**, and is as high as it should be, whatever its width. -/
theorem standsAbove_of_popupArea (hitems : items ≠ []) (hfew : items.length ≤ maxSuggestions)
    (hinput : input.OnScreen columns rows) {a : Area} (ha : popupArea items input = .ok a) :
    a.height = min (items.length + 2) input.y ∧ StandsAbove a input columns rows := by
  by_cases hwidth : longest items % 0x10000 + 4 < 0x10000
  · rw [popupArea_of_lt hitems hfew hwidth] at ha
    obtain rfl := Except.ok.inj ha
    exact ⟨rfl, standsAbove hinput (Nat.min_le_right _ _) (Nat.min_le_right _ _)⟩
  · rw [popupArea_of_le hitems (Nat.le_of_not_lt hwidth)] at ha
    cases ha

/-- **The popup is as it should be exactly when the whole length and four columns more fit the word.** -/
theorem popupFits_iff (hitems : items ≠ []) (hfew : items.length ≤ maxSuggestions)
    (hinput : input.OnScreen columns rows) :
    PopupFits items input columns rows ↔ longest items + 4 < 0x10000 := by
  constructor
  · rintro ⟨⟨huncut, _⟩, a, ha, _⟩
    -- Both are needed: a length that is cut down may fit, and one that is not may leave no room for the columns.
    by_contra hwidth
    rw [popupArea_of_le hitems (by omega)] at ha
    cases ha
  · intro hwidth
    have huncut : longest items % 0x10000 = longest items := Nat.mod_eq_of_lt (by omega)
    have ha := popupArea_of_lt hitems hfew (by rwa [huncut]) input
    obtain ⟨hheight, habove⟩ := standsAbove_of_popupArea hitems hfew hinput ha
    refine ⟨⟨huncut, Nat.mod_eq_of_lt (Nat.lt_of_le_of_lt hfew (by decide))⟩, _, ha, ?_, hheight, habove⟩
    rw [huncut]

namespace Session

variable {s : Session}

/-! ## In a session -/

/-- **Which screens cannot be drawn**: those with a popup that has no area. -/
theorem draw_eq_error_iff (h : Reachable s) (width height : Nat) :
    s.draw width height = .error {} ↔
      s.completion.visible = true ∧ 0x10000 ≤ longest s.completion.items % 0x10000 + 4 := by
  have hformed : s.completion.Formed := h.free.formed
  cases hvisible : s.completion.visible with
  | false =>
      unfold draw
      simp [hvisible, bind, Except.bind, pure, Except.pure]
  | true =>
      have hitems : s.completion.items ≠ [] := hformed.visible.mp hvisible
      have hshown : s.completion.items.isEmpty = false := List.isEmpty_eq_false_iff.mpr hitems
      rw [← popupArea_eq_error_iff hitems hformed.few]
      unfold draw
      simp only [hvisible, hshown, bind, Except.bind, pure, Except.pure, Bool.not_false, Bool.and_self, if_true, true_and]
      cases popupArea s.completion.items (Layout.of width height).input with
      | error e => simp
      | ok a => simp

/-- **Where the popup stands.** In every state that a session can come into with its popup shown, and for every box on a
    screen: the popup is as it should be exactly when its longest suggestion has fewer than 65532 characters. If there is an
    area for it at all, it is as high as it should be and stands where it should; and there is none exactly when the number of
    characters, cut down to 16 bits, is one of the last four that 16 bits can hold. -/
theorem popup_fits_iff (h : Reachable s) (hvisible : s.completion.visible = true) {input : Area} {columns rows : Nat}
    (hinput : input.OnScreen columns rows) :
    (PopupFits s.completion.items input columns rows ↔ longest s.completion.items + 4 < 0x10000) ∧
    (∀ a, popupArea s.completion.items input = .ok a →
      a.height = min (s.completion.items.length + 2) input.y ∧ StandsAbove a input columns rows) ∧
    (popupArea s.completion.items input = .error {} ↔ 0x10000 ≤ longest s.completion.items % 0x10000 + 4) := by
  have hformed : s.completion.Formed := h.free.formed
  have hitems : s.completion.items ≠ [] := hformed.visible.mp hvisible
  refine ⟨popupFits_iff hitems hformed.few hinput, ?_, popupArea_eq_error_iff hitems hformed.few⟩
  intro a ha
  exact standsAbove_of_popupArea hitems hformed.few hinput ha

/-- Above the search box of a small screen the one name with an "a" is suggested. -/
theorem popup_above_search_box :
    (Layout.of 40 10).input.OnScreen 40 10 ∧
      (sampleSession.step (.key { key := .char 'a' })).completion.visible = true ∧
      PopupFits (sampleSession.step (.key { key := .char 'a' })).completion.items (Layout.of 40 10).input 40 10 := by
  have htyped := sampleSession_reachable.step (.key { key := .char 'a' })
  have hvisible : (sampleSession.step (.key { key := .char 'a' })).completion.visible = true := by decide +kernel
  have hinput : (Layout.of 40 10).input.OnScreen 40 10 := ⟨by decide, by decide, by decide, by decide, by decide⟩
  exact ⟨hinput, hvisible, (popup_fits_iff htyped hvisible hinput).1.mpr (by decide +kernel)⟩

/-- A tag of `n` letters. -/
def longTag (n : Nat) : String := String.ofList (List.replicate n 'b')

theorem length_longTag (n : Nat) : (longTag n).length = n := by
  rw [longTag, String.length_ofList, List.length_replicate]

/-- Such a tag is suggested for its letter. -/
theorem suggest_longTag (n : Nat) : suggest [longTag (n + 1)] "b" [] maxSuggestions = [longTag (n + 1)] := by
  have hsettled : ∀ c ∈ (longTag (n + 1)).toList, Settled c := by
    intro c hc
    rw [longTag, String.toList_ofList] at hc
    rw [List.eq_of_mem_replicate hc]
    decide
  have hsame : (lowercase (longTag (n + 1))).toList = (longTag (n + 1)).toList := by
    rw [toList_lowercase]
    exact lowercaseFrom_of_settled hsettled
  have hoccurs : occursIn (lowercase (trim "b")) (lowercase (longTag (n + 1))) = true := by
    rw [occursIn_iff, hsame, longTag, String.toList_ofList, List.replicate_succ]
    exact (List.prefix_append ['b'] _).isInfix
  simp [suggest, hoccurs, maxSuggestions]

/-- The tag picker of "api" is open, with "b" in its box. -/
def pickerSession : Session :=
  (start "board" "http://backend" "dark").run
    [.event "12:00:00" (.poll (.updated (Catalog.ofList [("api", { tags := ["b"], pinnedTagValue := "b" })]))),
      .key { key := .char 't', ctrl := true }]

/-- The same session when `tag` has become the only tag. -/
def offering (tag : String) : Session :=
  pickerSession.step
    (.event "12:00:05" (.poll (.updated (Catalog.ofList [("api", { tags := [tag], pinnedTagValue := "b" })]))))

theorem offering_reachable (tag : String) : Reachable (offering tag) := by
  have hpicker : Reachable pickerSession := ⟨_, _, _, _, rfl⟩
  exact hpicker.step _

theorem offering_items (tag : String) : (offering tag).completion.items = suggest [tag] "b" [] maxSuggestions := by
  have hmode : pickerSession.mode = .tag "api" := by decide +kernel
  have htext : pickerSession.tagBox.text = "b" := by decide +kernel
  unfold offering step handle refreshCompletion
  simp only [hmode, htext]
  rw [Completion.update_items (by decide)]
  rfl

/-- **A tag of 65532 characters has no popup** on a screen of ten rows, and there is no screen. -/
theorem no_popup_for_long_tag :
    Reachable (offering (longTag 65532)) ∧ (offering (longTag 65532)).completion.visible = true ∧
      (offering (longTag 65532)).completion.items = [longTag 65532] ∧ (Layout.of 40 10).input.OnScreen 40 10 ∧
      popupArea [longTag 65532] (Layout.of 40 10).input = .error {} ∧ (offering (longTag 65532)).draw 40 10 = .error {} := by
  have hreach := offering_reachable (longTag 65532)
  have hitems : (offering (longTag 65532)).completion.items = [longTag 65532] := by rw [offering_items, suggest_longTag]
  have hvisible : (offering (longTag 65532)).completion.visible = true := by
    refine hreach.free.formed.visible.mpr ?_
    rw [hitems]
    exact List.cons_ne_nil _ _
  have hwide : 0x10000 ≤ longest [longTag 65532] % 0x10000 + 4 := by rw [longest_singleton, length_longTag]
  refine ⟨hreach, hvisible, hitems, ⟨by decide, by decide, by decide, by decide, by decide⟩, ?_, ?_⟩
  · exact popupArea_of_le (List.cons_ne_nil _ _) hwide _
  · rw [draw_eq_error_iff hreach, hitems]
    exact ⟨hvisible, hwide⟩

end Session
end DeployBoard
