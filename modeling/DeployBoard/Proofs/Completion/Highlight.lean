import DeployBoard.Proofs.Completion
import Mathlib.Data.Nat.ModEq
import Mathlib.Logic.Function.Iterate

/-!
# `Proofs.Completion.Highlight` — where the highlight goes

The highlight is a place in the list, and two things move it. When the suggestions are found again it is put on the text that was
highlighted, where that is listed, and otherwise on the first (`staysOnText_update`). A step moves it to a neighbouring
place, round the ends, so steps down and up undo each other (`prev_next`, `next_prev`), and as many steps down as there
are suggestions pass every place once (`existsUnique_presses`).

All this is said of popups in order, and every popup that changes lead to is (`Reachable.formed`). So are the lists short,
and no step leaves its machine word (`Formed.next?_eq`, `Formed.prev?_eq`).
-/

namespace DeployBoard
namespace Completion

open Text

/-- **What can be done to the suggestions.** -/
inductive Change where
  | update (candidates : List String) (input : String) (exclude : List String)
  | next
  | prev
  | reset

/-- The suggestions after one change. -/
def change (c : Completion) : Change → Completion
  | .update candidates input exclude => c.update candidates input exclude
  | .next => c.next
  | .prev => c.prev
  | .reset => c.reset

/-- The suggestions after changes, in their order. -/
def run (c : Completion) (changes : List Change) : Completion := changes.foldl change c

/-- **Suggestions that changes lead to** from none. -/
def Reachable (c : Completion) : Prop := ∃ changes, run {} changes = c

/-- **The highlight stays on its text**: what was highlighted is so afterwards if it is listed, and if it is not, the first that is
    listed is highlighted. -/
structure StaysOnText (before after : Completion) : Prop where
  found : ∀ item ∈ after.items, before.current? = some item → after.current? = some item
  lost : (∀ item ∈ after.items, before.current? ≠ some item) → after.current? = after.items.head?

variable {c : Completion} {candidates exclude : List String} {input : String}

/-! ## Every change -/

theorem Formed.change (h : Formed c) (change : Change) : Formed (c.change change) := by
  cases change with
  | update candidates input exclude => exact formed_update c candidates exclude input
  | next => exact h.next
  | prev => exact h.prev
  | reset => exact formed_empty

/-- **Suggestions that changes lead to are in order.** -/
theorem Reachable.formed (h : Reachable c) : Formed c := by
  obtain ⟨changes, rfl⟩ := h
  exact List.foldlRecOn changes Completion.change formed_empty fun _ hc change _ => hc.change change

/-! ## Suggestions found again -/

/-- What is shown after new input: the text at the place that the earlier one is found at, or the first. -/
theorem current?_update (c : Completion) (candidates exclude : List String) (hinput : isBlankText input = false) :
    (c.update candidates input exclude).current? =
      (c.update candidates input exclude).items[
        (c.current?.bind fun text => (c.update candidates input exclude).items.findIdx? (· == text)).getD 0]? := by
  unfold update current?
  simp only [hinput, Bool.false_eq_true, if_false]
  cases suggest candidates input exclude maxSuggestions with
  | nil => rfl
  | cons item items => rfl

/-- **Finding the suggestions again leaves the highlight on its text.** -/
theorem staysOnText_update (c : Completion) (candidates exclude : List String) (hinput : isBlankText input = false) :
    StaysOnText c (c.update candidates input exclude) := by
  have hcurrent := current?_update c candidates exclude hinput
  constructor
  · intro item hitem hbefore
    have hlisted : ((c.update candidates input exclude).items.findIdx? (· == item)).isSome = true := by
      rw [List.findIdx?_isSome, List.any_eq_true]
      exact ⟨item, hitem, beq_self_eq_true item⟩
    obtain ⟨place, hplace⟩ := Option.isSome_iff_exists.mp hlisted
    obtain ⟨hlt, hsame, _⟩ := List.findIdx?_eq_some_iff_getElem.mp hplace
    rw [hcurrent, hbefore, Option.bind_some, hplace, Option.getD_some, List.getElem?_eq_getElem hlt, eq_of_beq hsame]
  · intro hlost
    have hfirst : (c.current?.bind fun text =>
        (c.update candidates input exclude).items.findIdx? (· == text)) = none := by
      cases hbefore : c.current? with
      | none => rfl
      | some text =>
          rw [Option.bind_some, List.findIdx?_eq_none_iff]
          intro item hitem
          apply beq_false_of_ne
          rintro rfl
          exact hlost item hitem hbefore
    rw [hcurrent, hfirst, Option.getD_none, List.head?_eq_getElem?]

/-! ## Steps -/

theorem Formed.selected_lt (h : Formed c) (hitems : c.items ≠ []) : c.selected < c.items.length :=
  h.highlight.resolve_right fun hempty => hitems hempty.1

theorem next_selected (hitems : c.items ≠ []) : c.next.selected = (c.selected + 1) % c.items.length := by
  unfold next
  rw [if_neg hitems]

theorem prev_selected (hitems : c.items ≠ []) :
    c.prev.selected = (c.selected + c.items.length - 1) % c.items.length := by
  unfold prev
  rw [if_neg hitems]

theorem next_of_empty (h : c.items = []) : c.next = c := if_pos h

theorem prev_of_empty (h : c.items = []) : c.prev = c := if_pos h

/-- Suggestions are told by their list, their place and whether they are shown. -/
theorem eq_of_selected {d : Completion} (hitems : c.items = d.items) (hselected : c.selected = d.selected)
    (hvisible : c.visible = d.visible) : c = d := by
  cases c; cases d; cases hitems; cases hselected; cases hvisible; rfl

/-- **A step up undoes a step down.** -/
theorem next_prev (h : Formed c) : c.next.prev = c := by
  by_cases hitems : c.items = []
  · rw [next_of_empty hitems, prev_of_empty hitems]
  have hlt := h.selected_lt hitems
  have hnext : c.next.items ≠ [] := by rwa [next_items]
  apply eq_of_selected (by rw [prev_items, next_items]) _ (by rw [prev_visible, next_visible])
  rw [prev_selected hnext, next_items, next_selected hitems]
  rcases Nat.lt_or_eq_of_le (Nat.succ_le_of_lt hlt) with hinside | hlast
  · rw [Nat.mod_eq_of_lt hinside, Nat.succ_eq_add_one, Nat.add_right_comm, Nat.add_sub_cancel, Nat.add_mod_right,
      Nat.mod_eq_of_lt hlt]
  · -- From the last place the step went round to the first.
    have hback : 0 + c.items.length - 1 = c.selected := by omega
    rw [← Nat.succ_eq_add_one, hlast, Nat.mod_self, hback, Nat.mod_eq_of_lt hlt]

/-- **A step down undoes a step up.** -/
theorem prev_next (h : Formed c) : c.prev.next = c := by
  by_cases hitems : c.items = []
  · rw [prev_of_empty hitems, next_of_empty hitems]
  have hlt := h.selected_lt hitems
  have hprev : c.prev.items ≠ [] := by rwa [prev_items]
  apply eq_of_selected (by rw [next_items, prev_items]) _ (by rw [next_visible, prev_visible])
  rw [next_selected hprev, prev_items, prev_selected hitems]
  rcases Nat.eq_zero_or_pos c.selected with hfirst | hinside
  · -- From the first place the step went round to the last.
    have hlast : 0 + c.items.length - 1 < c.items.length := by omega
    have hround : 0 + c.items.length - 1 + 1 = c.items.length := by omega
    rw [hfirst, Nat.mod_eq_of_lt hlast, hround, Nat.mod_self]
  · have hup : c.selected + c.items.length - 1 = c.selected - 1 + c.items.length := by omega
    have hless : c.selected - 1 < c.items.length := by omega
    rw [hup, Nat.add_mod_right, Nat.mod_eq_of_lt hless, Nat.sub_add_cancel hinside, Nat.mod_eq_of_lt hlt]

/-! ## Many steps down -/

theorem items_next_iterate (c : Completion) (presses : Nat) : (next^[presses] c).items = c.items := by
  induction presses with
  | zero => rfl
  | succ presses ih => rw [Function.iterate_succ_apply', next_items, ih]

theorem visible_next_iterate (c : Completion) (presses : Nat) : (next^[presses] c).visible = c.visible := by
  induction presses with
  | zero => rfl
  | succ presses ih => rw [Function.iterate_succ_apply', next_visible, ih]

/-- **Steps down count on**, round the end of the list. -/
theorem selected_next_iterate (h : Formed c) (hitems : c.items ≠ []) (presses : Nat) :
    (next^[presses] c).selected = (c.selected + presses) % c.items.length := by
  induction presses with
  | zero => exact (Nat.mod_eq_of_lt (h.selected_lt hitems)).symm
  | succ presses ih =>
      have hsame : (next^[presses] c).items ≠ [] := by rwa [items_next_iterate]
      rw [Function.iterate_succ_apply', next_selected hsame, items_next_iterate, ih, Nat.mod_add_mod, Nat.add_assoc]

/-- **As many steps down as there are suggestions lead back.** -/
theorem next_iterate_length (h : Formed c) : next^[c.items.length] c = c := by
  by_cases hitems : c.items = []
  · rw [hitems]
    rfl
  · apply eq_of_selected (items_next_iterate c _) _ (visible_next_iterate c _)
    rw [selected_next_iterate h hitems, Nat.add_mod_right, Nat.mod_eq_of_lt (h.selected_lt hitems)]

/-- Every place is reached on the way round: one further down as it is, and one further up after the end of the list. -/
theorem exists_presses (h : Formed c) {place : Nat} (hplace : place < c.items.length) :
    ∃ presses < c.items.length, (next^[presses] c).selected = place := by
  have hitems : c.items ≠ [] := List.ne_nil_of_length_pos (Nat.zero_lt_of_lt hplace)
  have hlt := h.selected_lt hitems
  rcases Nat.lt_or_ge place c.selected with hup | hdown
  · have hround : c.selected + (place + c.items.length - c.selected) = place + c.items.length := by omega
    refine ⟨place + c.items.length - c.selected, by omega, ?_⟩
    rw [selected_next_iterate h hitems, hround, Nat.add_mod_right, Nat.mod_eq_of_lt hplace]
  · refine ⟨place - c.selected, by omega, ?_⟩
    rw [selected_next_iterate h hitems, Nat.add_sub_cancel' hdown, Nat.mod_eq_of_lt hplace]

/-- **On the way round every place is passed once.** -/
theorem existsUnique_presses (h : Formed c) {place : Nat} (hplace : place < c.items.length) :
    ∃! presses, presses < c.items.length ∧ (next^[presses] c).selected = place := by
  have hitems : c.items ≠ [] := List.ne_nil_of_length_pos (Nat.zero_lt_of_lt hplace)
  obtain ⟨presses, hpresses, hreached⟩ := exists_presses h hplace
  refine ⟨presses, ⟨hpresses, hreached⟩, ?_⟩
  -- Places reached after different numbers of steps, both less than the length, differ.
  rintro other ⟨hother, hthere⟩
  rw [← hreached, selected_next_iterate h hitems, selected_next_iterate h hitems] at hthere
  exact Nat.ModEq.eq_of_lt_of_lt (Nat.ModEq.add_left_cancel' c.selected hthere) hother hpresses

/-! ## Steps in machine words -/

/-- **A step down stays in its word.** -/
theorem Formed.next?_eq (h : Formed c) : c.next? = .ok c.next := by
  unfold next? Completion.next
  by_cases hitems : c.items = []
  · rw [if_pos hitems, if_pos hitems]
  · have hlt := h.selected_lt hitems
    have hfew : c.items.length ≤ 8 := h.few
    rw [if_neg hitems, if_neg hitems, addUnsigned64_of_lt (by omega)]
    rfl

/-- **A step up stays in its word**, above and below. -/
theorem Formed.prev?_eq (h : Formed c) : c.prev? = .ok c.prev := by
  unfold prev? Completion.prev
  by_cases hitems : c.items = []
  · rw [if_pos hitems, if_pos hitems]
  · have hlt := h.selected_lt hitems
    have hfew : c.items.length ≤ 8 := h.few
    have hsum : addUnsigned64 c.selected c.items.length = .ok (c.selected + c.items.length) :=
      addUnsigned64_of_lt (by omega)
    have hplace : subUnsigned (c.selected + c.items.length) 1 = .ok (c.selected + c.items.length - 1) :=
      subUnsigned_of_le (by omega)
    rw [if_neg hitems, if_neg hitems, hsum]
    show ((subUnsigned (c.selected + c.items.length) 1).bind _) = _
    rw [hplace]
    rfl

/-- **The highlight is stable.** Let changes have led to these suggestions. New input that is not blank leaves the highlight on its
    text, or on the first suggestion if that text is gone. Steps down and up undo each other. As many steps down as there are
    suggestions lead back, and pass every place once. No step leaves its machine word, and the highlight is on a
    suggestion whenever there is one. -/
theorem highlight_stable (h : Reachable c) :
    (∀ (candidates exclude : List String) (input : String), isBlankText input = false →
      StaysOnText c (c.update candidates input exclude)) ∧
    c.next.prev = c ∧ c.prev.next = c ∧ next^[c.items.length] c = c ∧
    (∀ place < c.items.length, ∃! presses, presses < c.items.length ∧ (next^[presses] c).selected = place) ∧
    c.next? = .ok c.next ∧ c.prev? = .ok c.prev ∧ (c.items ≠ [] → c.selected < c.items.length) := by
  have hformed := h.formed
  refine ⟨?_, next_prev hformed, prev_next hformed, next_iterate_length hformed, ?_, hformed.next?_eq, hformed.prev?_eq,
    hformed.selected_lt⟩
  · intro candidates exclude input hinput
    exact staysOnText_update c candidates exclude hinput
  · intro place hplace
    exact existsUnique_presses hformed hplace

/-- Suggestions may repeat a text. From the second of two, steps pass it again, and new input leads back to the first. -/
theorem highlight_stable_among_repeated :
    Reachable { items := ["v1", "v1", "v2"], selected := 1, visible := true } ∧
    next^[3] { items := ["v1", "v1", "v2"], selected := 1, visible := true } =
      { items := ["v1", "v1", "v2"], selected := 1, visible := true } ∧
    ((Completion.update { items := ["v1", "v1", "v2"], selected := 1, visible := true }
      ["v0", "v1", "v1"] "v" []).current? = some "v1") := by
  have hreach : Reachable { items := ["v1", "v1", "v2"], selected := 1, visible := true } :=
    ⟨[.update ["v1", "v1", "v2"] "v" [], .next], by decide +kernel⟩
  obtain ⟨hupdate, _, _, hround, _⟩ := highlight_stable hreach
  refine ⟨hreach, hround, ?_⟩
  exact (hupdate ["v0", "v1", "v1"] [] "v" (by decide +kernel)).found "v1" (by decide +kernel) rfl

end Completion
end DeployBoard
