import DeployBoard.Proofs.Session.Selection
import DeployBoard.Proofs.TagPicker

/-!
# `Proofs.Dashboard.Cycling` — which displayed tags can be stepped to

To step through the tags of the selected row changes its picker and nothing else, so the row stays selected with its tags
while the steps lead from tag to tag (`chosenTag?_pressed`). Whether they come to every tag is a question about the list
of tags alone, and `every_tag_reached_iff` answers it: in both directions every displayed tag can be stepped to, from
whatever is chosen, exactly when the tags go round.
-/

namespace DeployBoard
namespace Dashboard

/-- The tag that is chosen for a repository. -/
def chosenTag? (s : Dashboard) (repo : String) : Option String := (s.pickers.get? repo).map (·.selected)

/-- The dashboard after steps by `delta`, so many of them. -/
def pressed (s : Dashboard) (delta : Int) (presses : Nat) : Dashboard :=
  s.run (List.replicate presses (.cycleTag delta))

/-- **Every tag can be stepped to**, to the right and to the left. -/
def StepsReach (s : Dashboard) (name : String) (tags : List String) : Prop :=
  ∀ tag ∈ tags, (∃ presses, (s.pressed 1 presses).chosenTag? name = some tag) ∧
    ∃ presses, (s.pressed (-1) presses).chosenTag? name = some tag

variable {s : Dashboard} {name : String} {record : Record} {picker : TagPicker}

theorem pressed_succ (s : Dashboard) (delta : Int) (presses : Nat) :
    s.pressed delta (presses + 1) = (s.pressed delta presses).cycleTag delta := by
  unfold pressed
  rw [List.replicate_succ', run_append]
  rfl

/-- The selected row has a picker. -/
theorem Reachable.picker_of_selected (hs : Reachable s) (hrow : s.selected? = some (name, record)) :
    ∃ picker, s.pickers.get? name = some picker := by
  have hlisted : s.display.isEmpty = false := by
    cases hempty : s.display.isEmpty with
    | false => rfl
    | true =>
        rw [selected?_of_isEmpty hempty] at hrow
        cases hrow
  obtain ⟨name', _, picker, hselected, _, hpicker⟩ := hs.selected hlisted
  rw [hrow] at hselected
  cases hselected
  exact ⟨picker, hpicker⟩

/-- **Steps change the picker of the selected row**, and leave the row selected. -/
theorem pressed_eq (hrow : s.selected? = some (name, record)) (hpicker : s.pickers.get? name = some picker)
    (delta : Int) (presses : Nat) :
    (s.pressed delta presses).selected? = some (name, record) ∧
      (s.pressed delta presses).pickers.get? name =
        some ((fun p => TagPicker.cycle p record.tags delta)^[presses] picker) := by
  induction presses with
  | zero => exact ⟨hrow, hpicker⟩
  | succ presses ih =>
      obtain ⟨hrow, hpicker⟩ := ih
      have hcycle : (s.pressed delta presses).cycleTag delta =
          { s.pressed delta presses with
            pickers := (s.pressed delta presses).pickers.modify name fun p => p.cycle record.tags delta } := by
        unfold cycleTag
        rw [hrow]
      rw [pressed_succ, hcycle]
      refine ⟨hrow, ?_⟩
      rw [Catalog.get?_modify, if_pos rfl, hpicker, Function.iterate_succ_apply']
      rfl

/-- **What is chosen after steps** is where the steps lead from what was chosen before. -/
theorem chosenTag?_pressed (hrow : s.selected? = some (name, record)) (hpicker : s.pickers.get? name = some picker)
    (delta : Int) (presses : Nat) :
    (s.pressed delta presses).chosenTag? name =
      some ((TagPicker.stepFrom record.tags delta)^[presses] picker.selected) := by
  unfold chosenTag?
  rw [(pressed_eq hrow hpicker delta presses).2, Option.map_some, TagPicker.selected_cycle_iterate]

/-- Steps of the dashboard reach what steps of the picker reach. -/
theorem exists_pressed_iff (hrow : s.selected? = some (name, record)) (hpicker : s.pickers.get? name = some picker)
    (delta : Int) (tag : String) :
    (∃ presses, (s.pressed delta presses).chosenTag? name = some tag) ↔
      TagPicker.Reaches record.tags delta picker.selected tag := by
  simp only [chosenTag?_pressed hrow hpicker, Option.some.injEq]
  rfl

/-- **Every displayed tag can be stepped to exactly when the tags go round.** For a row that can come to be selected: in
    every state in which it is, every tag of the row is chosen after some number of steps to the right, and after some number of
    steps to the left, if and only if its tags name each tag once and then, if they go on, repeat these from the first on and
    up to the last. In particular that holds when all of them are different. -/
theorem every_tag_reached_iff (hs : Reachable s) (hrow : s.selected? = some (name, record)) :
    (∀ t, Reachable t → t.selected? = some (name, record) → t.StepsReach name record.tags) ↔
      TagPicker.GoesRound record.tags := by
  rw [← TagPicker.reachesAll_iff_goesRound]
  constructor
  · intro h
    -- Whatever is to be chosen first can be chosen for the row.
    have hchosen : ∀ chosen, ∃ t, Reachable t ∧ t.selected? = some (name, record) ∧
        t.pickers.get? name = some ⟨chosen, chosen⟩ := by
      intro chosen
      obtain ⟨picker, hpicker⟩ := hs.picker_of_selected hrow
      refine ⟨s.selectTag name chosen, hs.step (.selectTag name chosen), hrow, ?_⟩
      show (s.pickers.modify name fun p => p.select chosen).get? name = _
      rw [Catalog.get?_modify, if_pos rfl, hpicker]
      rfl
    constructor
    · intro chosen tag htag
      obtain ⟨t, ht, hrow', hpicker⟩ := hchosen chosen
      exact (exists_pressed_iff hrow' hpicker 1 tag).mp (h t ht hrow' tag htag).1
    · intro chosen tag htag
      obtain ⟨t, ht, hrow', hpicker⟩ := hchosen chosen
      exact (exists_pressed_iff hrow' hpicker (-1) tag).mp (h t ht hrow' tag htag).2
  · rintro ⟨hright, hleft⟩ t ht hrow' tag htag
    obtain ⟨picker, hpicker⟩ := ht.picker_of_selected hrow'
    constructor
    · exact (exists_pressed_iff hrow' hpicker 1 tag).mpr (hright picker.selected tag htag)
    · exact (exists_pressed_iff hrow' hpicker (-1) tag).mpr (hleft picker.selected tag htag)

/-- From a version that is not among the tags, both of them can be stepped to. -/
theorem tags_reached_from_other_version :
    sampleBoard.selected? = some ("api", { tags := ["v1", "v2"], pinnedTagValue := "v0", autoDeploy := true }) ∧
      sampleBoard.chosenTag? "api" = some "v0" ∧ sampleBoard.StepsReach "api" ["v1", "v2"] := by
  have hrow : sampleBoard.selected? =
      some ("api", { tags := ["v1", "v2"], pinnedTagValue := "v0", autoDeploy := true }) := by decide
  refine ⟨hrow, by decide, ?_⟩
  have hround : TagPicker.GoesRound ["v1", "v2"] := TagPicker.goesRound_of_nodup (by decide)
  exact (every_tag_reached_iff sampleBoard_reachable hrow).mpr hround sampleBoard sampleBoard_reachable hrow

/-- A dashboard with one repository, whose tags name "v1" twice. -/
def sampleRepeated : Dashboard :=
  run {} [.poll "12:00:00" (.updated (Catalog.ofList
    [("api", { tags := ["v1", "v2", "v1", "v3"], pinnedTagValue := "v1", autoDeploy := true })]))]

/-- **Steps do not come past a tag that stands again**: to the right "v3" is never chosen, and to the left "v2" is not. -/
theorem tag_behind_repeated_never_reached :
    Reachable sampleRepeated ∧
      sampleRepeated.selected? = some ("api",
        { tags := ["v1", "v2", "v1", "v3"], pinnedTagValue := "v1", autoDeploy := true }) ∧
      (∀ presses, (sampleRepeated.pressed 1 presses).chosenTag? "api" ≠ some "v3") ∧
      ∀ presses, (sampleRepeated.pressed (-1) presses).chosenTag? "api" ≠ some "v2" := by
  have hrow : sampleRepeated.selected? =
      some ("api", { tags := ["v1", "v2", "v1", "v3"], pinnedTagValue := "v1", autoDeploy := true }) := by decide
  have hpicker : sampleRepeated.pickers.get? "api" = some ⟨"v1", "v1"⟩ := by decide
  refine ⟨⟨_, rfl⟩, hrow, ?_, ?_⟩
  · intro presses hreached
    have hreaches := (exists_pressed_iff hrow hpicker 1 "v3").mp ⟨presses, hreached⟩
    have hstay : "v3" = "v1" ∨ "v3" = "v2" := by
      apply hreaches.invariant (P := fun t => t = "v1" ∨ t = "v2") (.inl rfl)
      rintro t (rfl | rfl)
      · exact .inr (by decide)
      · exact .inl (by decide)
    exact absurd hstay (by decide)
  · intro presses hreached
    have hreaches := (exists_pressed_iff hrow hpicker (-1) "v2").mp ⟨presses, hreached⟩
    have hstay : "v2" = "v1" ∨ "v2" = "v3" := by
      apply hreaches.invariant (P := fun t => t = "v1" ∨ t = "v3") (.inl rfl)
      rintro t (rfl | rfl)
      · exact .inr (by decide)
      · exact .inl (by decide)
    exact absurd hstay (by decide)

end Dashboard
end DeployBoard
