import DeployBoard.Completion

/-!
# `Proofs.Completion` — a popup in order

A popup is in order when it is shown just while it has suggestions, has no more of them than allowed, and highlights one
of them (`Completion.Formed`). Finding the suggestions again brings every popup in order, and moving the highlight keeps
it so. A popup in order that is shown has a current suggestion (`Formed.current`).
-/

namespace DeployBoard

open Text

/-- Suggestions come in the order of the candidates. -/
theorem suggest_sublist (candidates exclude : List String) (input : String) (limit : Nat) :
    (suggest candidates input exclude limit).Sublist candidates := by
  unfold suggest
  exact (List.take_sublist _ _).trans (List.filter_sublist.trans List.filter_sublist)

theorem length_suggest_le (candidates exclude : List String) (input : String) (limit : Nat) :
    (suggest candidates input exclude limit).length ≤ limit := List.length_take_le _ _

/-- What is excluded is not suggested. -/
theorem not_excluded_of_mem_suggest {candidates exclude : List String} {input item : String} {limit : Nat}
    (h : item ∈ suggest candidates input exclude limit) : exclude.any (equalIgnoringAsciiCase · item) = false := by
  unfold suggest at h
  obtain ⟨hoffered, _⟩ := List.mem_filter.mp (List.mem_of_mem_take h)
  obtain ⟨_, hkept⟩ := List.mem_filter.mp hoffered
  rwa [Bool.not_eq_true'] at hkept

namespace Completion

/-- **The popup is in order.** -/
structure Formed (c : Completion) : Prop where
  visible : c.visible = true ↔ c.items ≠ []
  few : c.items.length ≤ maxSuggestions
  highlight : c.selected < c.items.length ∨ c.items = [] ∧ c.selected = 0

variable {c : Completion}

theorem formed_empty : Formed {} where
  visible := by simp
  few := Nat.zero_le _
  highlight := .inr ⟨rfl, rfl⟩

/-- What the popup lists comes in the order of the candidates. -/
theorem update_items_sublist (c : Completion) (candidates exclude : List String) (input : String) :
    (c.update candidates input exclude).items.Sublist candidates := by
  unfold update
  split
  · exact List.nil_sublist candidates
  · exact suggest_sublist candidates exclude input maxSuggestions

/-- A place found in a list is one of its places, and the first place stands in when there is none. -/
theorem findIdx_getD_lt {items : List String} (h : items ≠ []) (p : String → Bool) :
    (items.findIdx? p).getD 0 < items.length := by
  cases hfind : items.findIdx? p with
  | none => exact List.length_pos_iff.mpr h
  | some i =>
      obtain ⟨hi, _⟩ := List.findIdx?_eq_some_iff_getElem.mp hfind
      exact hi

/-- **Finding the suggestions again** brings any popup in order. -/
theorem formed_update (c : Completion) (candidates exclude : List String) (input : String) :
    Formed (c.update candidates input exclude) := by
  unfold update
  split
  · exact formed_empty
  · simp only
    generalize hitems : suggest candidates input exclude maxSuggestions = items
    refine ⟨by simp, ?_, ?_⟩
    · rw [← hitems]
      exact length_suggest_le ..
    · by_cases hempty : items = []
      · right
        subst hempty
        refine ⟨rfl, ?_⟩
        cases c.current? <;> rfl
      · left
        cases c.current? with
        | none => exact List.length_pos_iff.mpr hempty
        | some text => exact findIdx_getD_lt hempty _

/-- Any place of the list can be highlighted. -/
theorem Formed.withSelected (h : Formed c) {place : Nat} (hplace : c.items ≠ [] → place < c.items.length)
    (hempty : c.items = [] → place = 0) : Formed { c with selected := place } where
  visible := h.visible
  few := h.few
  highlight := by
    by_cases hitems : c.items = []
    · exact .inr ⟨hitems, hempty hitems⟩
    · exact .inl (hplace hitems)

theorem Formed.next (h : Formed c) : Formed c.next := by
  unfold Completion.next
  split
  · exact h
  · rename_i hitems
    refine h.withSelected (fun _ => ?_) (fun hempty => absurd hempty hitems)
    exact Nat.mod_lt _ (List.length_pos_iff.mpr hitems)

theorem Formed.prev (h : Formed c) : Formed c.prev := by
  unfold Completion.prev
  split
  · exact h
  · rename_i hitems
    refine h.withSelected (fun _ => ?_) (fun hempty => absurd hempty hitems)
    exact Nat.mod_lt _ (List.length_pos_iff.mpr hitems)

/-- **The highlight has been moved**, down or up. -/
def Browsed (c d : Completion) : Prop := d = c.next ∨ d = c.prev

variable {d : Completion}

theorem Browsed.items (h : Browsed c d) : d.items = c.items := by
  rcases h with rfl | rfl
  · exact c.next_items
  · exact c.prev_items

theorem Browsed.visible (h : Browsed c d) : d.visible = c.visible := by
  rcases h with rfl | rfl
  · exact c.next_visible
  · exact c.prev_visible

/-- **Moving the highlight** keeps a popup in order. -/
theorem Formed.browsed (hc : Formed c) (h : Browsed c d) : Formed d := by
  rcases h with rfl | rfl
  · exact hc.next
  · exact hc.prev

/-- **A popup that is shown has a current suggestion**, and it is one of those that it lists. -/
theorem Formed.current (h : Formed c) (hvisible : c.visible = true) :
    ∃ item ∈ c.items, c.current? = some item := by
  have hitems : c.items ≠ [] := h.visible.mp hvisible
  rcases h.highlight with hselected | ⟨hempty, _⟩
  · refine ⟨c.items[c.selected], List.getElem_mem hselected, ?_⟩
    unfold current?
    rw [if_pos hvisible, List.getElem?_eq_getElem hselected]
  · exact absurd hempty hitems

/-- A current suggestion is one of those that the popup lists. -/
theorem mem_of_current? {item : String} (h : c.current? = some item) : item ∈ c.items := by
  unfold current? at h
  split at h
  · exact List.mem_of_getElem? h
  · cases h

end Completion

end DeployBoard
