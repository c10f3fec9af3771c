import DeployBoard.Proofs.Dashboard.Cycling
import DeployBoard.Proofs.TagPicker.Composition

/-!
# `Proofs.Dashboard.StepSize` — steps of every size

The cursor moves, and a picker steps through the displayed tags, by any number of rows or tags that fits a word. A move
should end at the sum of the cursor and the step, or at the end of the list that this lies beyond (`EndsAt`), and a step
through tags at the sum of the place and the step, wrapped at either end (`CyclesExactly`).

Both sums are computed before anything is held inside the list, and in a word. So `every_step_size_iff`: a step does what it should
exactly when the sum fits its word, and otherwise it is not made. Backwards it always is.
-/

namespace DeployBoard
namespace Dashboard

/-- **Where a move ends**: at its target, or at the end of the list that the target lies beyond. -/
structure EndsAt (target : Int) (size place : Nat) : Prop where
  inside : 0 ≤ target → target < size → (place : Int) = target
  above : target < 0 → place = 0
  below : (size : Int) ≤ target → place = size - 1

/-- **A move by `delta` is made as it should be**: to where it ends, with the repository there as the anchor. Where nothing is
    listed the cursor is at the top. -/
def MovesExactly (s : Dashboard) (delta : Int) : Prop :=
  (s.display.isEmpty = true → s.moveCursor? delta = .ok { s with cursor := 0 }) ∧
    (s.display.isEmpty = false → ∃ place, EndsAt (s.cursor + delta) s.display.size place ∧
      s.moveCursor? delta = .ok { s with cursor := place, anchor := s.display.names[place]? })

/-- **The row of `name` is selected, with `tags` displayed, and the tag that is chosen for it stands at a place among
    them**, and at none before. -/
structure ChosenAt (s : Dashboard) (name : String) (tags : List String) (place : Nat) : Prop where
  row : ∃ record, s.selected? = some (name, record) ∧ record.tags = tags
  chosen : ∃ tag, s.chosenTag? name = some tag ∧ tags.findIdx? (· == tag) = some place

/-- **A step through tags by `delta` is made as it should be**: from the place of the chosen tag, if it has one, it chooses
    the tag whose place is the sum of that and the step, wrapped at either end. -/
def CyclesExactly (s : Dashboard) (delta : Int) : Prop :=
  (∃ t, s.cycleTag? delta = .ok t) ∧ ∀ name tags place, s.ChosenAt name tags place →
    ∃ tag, tags[(((place : Int) + delta) % (tags.length : Int)).toNat]? = some tag ∧
      s.cycleTag? delta = .ok (s.selectTag name tag)

variable {s t : Dashboard} {name : String} {tags : List String} {place : Nat} {delta : Int}

/-! ## Moves of the cursor -/

theorem moveCursor_of_empty (h : s.display.isEmpty = true) (delta : Int) :
    s.moveCursor delta = { s with cursor := 0 } := by
  unfold moveCursor
  rw [if_pos h]

/-- A move ends where it should, whatever its size. -/
theorem moveCursor_endsAt (h : s.display.isEmpty = false) (delta : Int) :
    ∃ place, EndsAt (s.cursor + delta) s.display.size place ∧
      s.moveCursor delta = { s with cursor := place, anchor := s.display.names[place]? } := by
  have hsize : 0 < s.display.size := Catalog.isEmpty_eq_false_iff_size.mp h
  refine ⟨(max 0 (min ((s.cursor : Int) + delta) ((s.display.size : Int) - 1))).toNat, ⟨?_, ?_, ?_⟩, ?_⟩
  · intro hlow hhigh
    omega
  · intro hlow
    omega
  · intro hhigh
    omega
  · unfold moveCursor
    rw [if_neg (ne_true_of_eq_false h)]

/-- Where nothing is listed every move is made. -/
theorem moveCursor?_of_empty (h : s.display.isEmpty = true) (delta : Int) :
    s.moveCursor? delta = .ok (s.moveCursor delta) := by
  unfold moveCursor?
  rw [if_pos h]

/-- **In a list a move is made exactly when the cursor and the step fit a word together.** -/
theorem moveCursor?_eq_ok_iff (h : s.display.isEmpty = false) :
    s.moveCursor? delta = .ok t ↔ fitsSigned64 (s.cursor + delta) = true ∧ s.moveCursor delta = t := by
  unfold moveCursor?
  rw [if_neg (ne_true_of_eq_false h)]
  simp only [map_eq_ok_iff, addSigned64_eq_ok_iff, and_assoc, exists_and_left, exists_eq_left']

theorem moveCursor?_of_overflow (h : s.display.isEmpty = false) (hsum : fitsSigned64 (s.cursor + delta) = false) :
    s.moveCursor? delta = .error {} := by
  unfold moveCursor?
  rw [if_neg (ne_true_of_eq_false h), addSigned64_of_not_fits hsum]
  rfl

/-- **A move is made as it should be exactly when there is no list, or the sum fits a word.** -/
theorem movesExactly_iff (s : Dashboard) (delta : Int) :
    s.MovesExactly delta ↔ s.display.isEmpty = true ∨ fitsSigned64 (s.cursor + delta) = true := by
  unfold MovesExactly
  cases hempty : s.display.isEmpty with
  | true =>
      have hmove : s.moveCursor? delta = .ok { s with cursor := 0 } := by
        rw [moveCursor?_of_empty hempty, moveCursor_of_empty hempty]
      simp [hmove]
  | false =>
      obtain ⟨place, hends, hmove⟩ := s.moveCursor_endsAt hempty delta
      simp only [Bool.false_eq_true, false_implies, true_implies, true_and, false_or, moveCursor?_eq_ok_iff hempty]
      constructor
      · rintro ⟨_, _, hfits, _⟩
        exact hfits
      · intro hfits
        exact ⟨place, hends, hfits, hmove⟩

/-! ## Steps through tags -/

/-- **A step chooses the tag that it should**, whatever its size. -/
theorem ChosenAt.cycleTag (h : s.ChosenAt name tags place) (delta : Int) :
    ∃ tag, tags[(((place : Int) + delta) % (tags.length : Int)).toNat]? = some tag ∧
      s.cycleTag delta = s.selectTag name tag := by
  obtain ⟨⟨record, hrow, rfl⟩, tag, htag, hplace⟩ := h
  obtain ⟨picker, hpicker, rfl⟩ := Option.map_eq_some_iff.mp htag
  obtain ⟨next, hnext, hcycle⟩ := TagPicker.cycle_of_position hplace delta
  refine ⟨next, hnext, ?_⟩
  -- The two agree on the picker of the row, and there is no other that they touch.
  have hpickers : (s.pickers.modify name fun p => p.cycle record.tags delta) =
      s.pickers.modify name fun p => p.select next := by
    apply Catalog.ext_get?
    intro key
    rw [Catalog.get?_modify, Catalog.get?_modify]
    by_cases hkey : key = name
    · rw [if_pos hkey, if_pos hkey, hkey, hpicker, Option.map_some, Option.map_some, hcycle]
    · rw [if_neg hkey, if_neg hkey]
  unfold Dashboard.cycleTag selectTag
  rw [hrow]
  simp only [hpickers]

/-- **A step from a place is made exactly when the place and the step fit a word together.** -/
theorem ChosenAt.cycleTag?_eq_ok_iff (h : s.ChosenAt name tags place) :
    s.cycleTag? delta = .ok t ↔ fitsSigned64 (place + delta) = true ∧ s.cycleTag delta = t := by
  obtain ⟨⟨record, hrow, rfl⟩, tag, htag, hplace⟩ := h
  obtain ⟨picker, hpicker, rfl⟩ := Option.map_eq_some_iff.mp htag
  unfold cycleTag?
  simp only [hrow, hpicker, map_eq_ok_iff, TagPicker.cycle?_eq_ok_iff hplace, and_assoc, exists_and_left,
    exists_eq_left']

/-- Where the chosen tag has no place every step is made. -/
theorem cycleTag?_of_unplaced (h : ∀ name tags place, ¬ s.ChosenAt name tags place) (delta : Int) :
    ∃ t, s.cycleTag? delta = .ok t := by
  unfold cycleTag?
  cases hrow : s.selected? with
  | none => exact ⟨s, rfl⟩
  | some entry =>
      obtain ⟨name, record⟩ := entry
      simp only
      cases hpicker : s.pickers.get? name with
      | none => exact ⟨s, rfl⟩
      | some picker =>
          have htag : s.chosenTag? name = some picker.selected := by
            unfold chosenTag?
            rw [hpicker, Option.map_some]
          have hplace : record.tags.findIdx? (· == picker.selected) = none := by
            cases hfind : record.tags.findIdx? (· == picker.selected) with
            | none => rfl
            | some place => exact absurd ⟨⟨record, hrow, rfl⟩, _, htag, hfind⟩ (h name record.tags place)
          simp only [TagPicker.cycle?, hplace]
          exact ⟨_, rfl⟩

/-- **A step is made as it should be exactly when the sum fits a word**, wherever it starts. -/
theorem cyclesExactly_iff (s : Dashboard) (delta : Int) :
    s.CyclesExactly delta ↔ ∀ name tags place, s.ChosenAt name tags place → fitsSigned64 (place + delta) = true := by
  constructor
  · rintro ⟨⟨t, hmade⟩, _⟩ name tags place hplace
    exact (hplace.cycleTag?_eq_ok_iff.mp hmade).1
  · intro hfits
    constructor
    · by_cases hplaced : ∃ name tags place, s.ChosenAt name tags place
      · obtain ⟨name, tags, place, hplace⟩ := hplaced
        exact ⟨_, hplace.cycleTag?_eq_ok_iff.mpr ⟨hfits name tags place hplace, rfl⟩⟩
      · exact cycleTag?_of_unplaced (fun name tags place h => hplaced ⟨name, tags, place, h⟩) delta
    · intro name tags place hplace
      obtain ⟨tag, htag, hcycle⟩ := hplace.cycleTag delta
      exact ⟨tag, htag, hplace.cycleTag?_eq_ok_iff.mpr ⟨hfits name tags place hplace, hcycle⟩⟩

/-! ## Both -/

/-- **Which step sizes are handled.** In every state, and for every step that is a word: the cursor moves by it as it should
    exactly when nothing is listed or the sum of the cursor and the step is a word still, and the picker of the selected
    row steps by it as it should exactly when the sum of the place of its chosen tag, if that has a place, and the step is.
    So every step backwards is handled, and every one forwards from the top of the list and from the first tag. -/
theorem every_step_size_iff (s : Dashboard) {delta : Int} (hdelta : fitsSigned64 delta = true) :
    (s.MovesExactly delta ↔ s.display.isEmpty = true ∨ (s.cursor : Int) + delta < 0x8000000000000000) ∧
    (s.CyclesExactly delta ↔
      ∀ name tags place, s.ChosenAt name tags place → (place : Int) + delta < 0x8000000000000000) := by
  constructor
  · rw [movesExactly_iff, fitsSigned64_place_iff hdelta]
  · simp only [cyclesExactly_iff, fitsSigned64_place_iff hdelta]

/-- From the second row the largest step backwards leads to the first. -/
theorem largest_step_backwards :
    fitsSigned64 (-0x8000000000000000) = true ∧
      (sampleBoard.step (.moveCursor 1)).cursor = 1 ∧
      ∃ place, EndsAt (1 + -0x8000000000000000) 2 place ∧
        (sampleBoard.step (.moveCursor 1)).moveCursor? (-0x8000000000000000) =
          .ok { sampleBoard.step (.moveCursor 1) with cursor := place, anchor := ["api", "web"][place]? } := by
  have hfits : fitsSigned64 (-0x8000000000000000) = true := by decide
  have hcursor : (sampleBoard.step (.moveCursor 1)).cursor = 1 := by decide
  have hmoves := (every_step_size_iff (sampleBoard.step (.moveCursor 1)) hfits).1.mpr
    (.inr (by rw [hcursor]; decide))
  obtain ⟨place, hends, hmove⟩ := hmoves.2 (by decide)
  have hsize : (sampleBoard.step (.moveCursor 1)).display.size = 2 := by decide
  have hnames : (sampleBoard.step (.moveCursor 1)).display.names = ["api", "web"] := by decide
  rw [hcursor, hsize] at hends
  rw [hnames] at hmove
  exact ⟨hfits, hcursor, place, hends, hmove⟩

/-- **The largest step forwards is not made** from the second row, nor from the second tag: it ends neither at the last row nor at
    any tag, but in an overflow. -/
theorem largest_step_not_made :
    fitsSigned64 0x7FFFFFFFFFFFFFFF = true ∧ Reachable (sampleBoard.step (.moveCursor 1)) ∧
      (sampleBoard.step (.moveCursor 1)).cursor = 1 ∧
      (sampleBoard.step (.moveCursor 1)).moveCursor? 0x7FFFFFFFFFFFFFFF = .error {} ∧
      Reachable (sampleBoard.step (.selectTag "api" "v2")) ∧
      (sampleBoard.step (.selectTag "api" "v2")).ChosenAt "api" ["v1", "v2"] 1 ∧
      ¬ ∃ t, (sampleBoard.step (.selectTag "api" "v2")).cycleTag? 0x7FFFFFFFFFFFFFFF = .ok t := by
  have hplace : (sampleBoard.step (.selectTag "api" "v2")).ChosenAt "api" ["v1", "v2"] 1 :=
    ⟨⟨{ tags := ["v1", "v2"], pinnedTagValue := "v0", autoDeploy := true }, by decide, rfl⟩, "v2", by decide, by decide⟩
  refine ⟨by decide, sampleBoard_reachable.step _, by decide, ?_, sampleBoard_reachable.step _, hplace, ?_⟩
  · exact moveCursor?_of_overflow (by decide) (by decide)
  · rintro ⟨t, hmade⟩
    exact absurd (hplace.cycleTag?_eq_ok_iff.mp hmade).1 (by decide)

end Dashboard
end DeployBoard
