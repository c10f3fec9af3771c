import DeployBoard.TagPicker
import Mathlib.Data.List.Induction
import Mathlib.Logic.Function.Iterate

/-!
# `Proofs.TagPicker` — stepping through tags

A picker knows its chosen tag and not its place among the tags, which is found again before each step: it is the first
one where the tag stands (`stepFrom`). Along tags that are all different steps go on and back one by one (`climbs` and
`descends`, by `stepRight` and `stepLeft`). At a tag that stood before, a step to the right jumps back to where it stood
first, and whatever lies behind it may be out of reach.

So steps reach every tag from everywhere exactly when the tags go round (`GoesRound`): they name every tag once, and if
they go on, then with tags that they have named already, beginning with the first of them and ending with the last
(`reachesAll_iff_goesRound`).
-/

namespace DeployBoard
namespace TagPicker

/-- **The tag that a step leads to** from the chosen one. -/
def stepFrom (tags : List String) (delta : Int) (tag : String) : String := (cycle ⟨tag, tag⟩ tags delta).selected

/-- Some number of steps leads from one tag to the other. -/
def Reaches (tags : List String) (delta : Int) (tag other : String) : Prop :=
  ∃ presses : Nat, (stepFrom tags delta)^[presses] tag = other

/-- **Steps by `delta` reach every tag**, whichever is chosen. -/
def ReachesAll (tags : List String) (delta : Int) : Prop := ∀ chosen, ∀ tag ∈ tags, Reaches tags delta chosen tag

/-- **The tags go round**: first each of them stands once, and then, if there are more, these only repeat them, from the
    first on and up to the last. -/
def GoesRound (tags : List String) : Prop :=
  ∃ first again, tags = first ++ again ∧ first.Nodup ∧ again ⊆ first ∧
    (again = [] ∨ again.head? = first.head? ∧ again.getLast? = first.getLast?)

/-- Tags that are all different go round. -/
theorem goesRound_of_nodup {tags : List String} (h : tags.Nodup) : GoesRound tags :=
  ⟨tags, [], (List.append_nil tags).symm, h, List.nil_subset tags, .inl rfl⟩

variable {tags first again : List String} {delta : Int} {chosen tag other : String} {i j : Nat}

/-! ## One step -/

/-- From a place among the tags a step counts on, and wraps at either end. -/
theorem cycle_of_position {picker : TagPicker} (h : tags.findIdx? (· == picker.selected) = some i) (delta : Int) :
    ∃ next, tags[(((i : Int) + delta) % (tags.length : Int)).toNat]? = some next ∧
      picker.cycle tags delta = picker.select next := by
  have hlt : i < tags.length := (List.findIdx?_eq_some_iff_getElem.mp h).1
  have hne : tags ≠ [] := List.ne_nil_of_length_pos (by omega)
  have hbound : (((i : Int) + delta) % (tags.length : Int)).toNat < tags.length := by
    have hnonneg := Int.emod_nonneg ((i : Int) + delta) (b := (tags.length : Int)) (by omega)
    have hless := Int.emod_lt_of_pos ((i : Int) + delta) (b := (tags.length : Int)) (by omega)
    omega
  refine ⟨_, List.getElem?_eq_getElem hbound, ?_⟩
  unfold cycle
  rw [if_neg hne]
  simp only [h, List.getElem?_eq_getElem hbound]

/-- A tag that is not among them has no place. -/
theorem position_of_absent (h : tag ∉ tags) : tags.findIdx? (· == tag) = none := by
  rw [List.findIdx?_eq_none_iff]
  intro other hother
  apply beq_false_of_ne
  rintro rfl
  exact h hother

/-- From elsewhere a step goes to the last tag when it is backwards, and to the first otherwise. -/
theorem cycle_of_absent {picker : TagPicker} (h : picker.selected ∉ tags) (hne : tags ≠ []) (delta : Int) :
    ∃ next, (if delta < 0 then tags.getLast? else tags.head?) = some next ∧
      picker.cycle tags delta = picker.select next := by
  have hnone : tags.findIdx? (· == picker.selected) = none := position_of_absent h
  have hlength : 0 < tags.length := List.length_pos_iff.mpr hne
  unfold cycle
  rw [if_neg hne]
  simp only [hnone]
  by_cases hdelta : delta < 0
  · have hlast : ((tags.length : Int) - 1).toNat = tags.length - 1 := by omega
    simp only [if_pos hdelta, hlast, List.getLast?_eq_getElem?]
    exact ⟨_, List.getElem?_eq_getElem (by omega), by rw [List.getElem?_eq_getElem (by omega)]⟩
  · simp only [if_neg hdelta, List.head?_eq_getElem?, Int.toNat_zero]
    exact ⟨_, List.getElem?_eq_getElem hlength, by rw [List.getElem?_eq_getElem hlength]⟩

/-- A step looks at the chosen tag alone. -/
theorem selected_cycle (picker : TagPicker) (tags : List String) (delta : Int) :
    (picker.cycle tags delta).selected = stepFrom tags delta picker.selected := by
  unfold stepFrom cycle
  by_cases hne : tags = []
  · rw [if_pos hne, if_pos hne]
  · rw [if_neg hne, if_neg hne]
    dsimp only
    generalize Int.toNat _ = next
    cases tags[next]? with
    | none => rfl
    | some tag => rfl

/-- **Steps one after another** are steps from tag to tag. -/
theorem selected_cycle_iterate (picker : TagPicker) (tags : List String) (delta : Int) (presses : Nat) :
    ((fun p => cycle p tags delta)^[presses] picker).selected = (stepFrom tags delta)^[presses] picker.selected := by
  induction presses with
  | zero => rfl
  | succ presses ih => rw [Function.iterate_succ_apply', selected_cycle, ih, Function.iterate_succ_apply']

/-! ## Reaching a tag -/

theorem Reaches.refl (tags : List String) (delta : Int) (tag : String) : Reaches tags delta tag tag := ⟨0, rfl⟩

theorem reaches_step (tags : List String) (delta : Int) (tag : String) :
    Reaches tags delta tag (stepFrom tags delta tag) := ⟨1, rfl⟩

theorem Reaches.trans {last : String} (h : Reaches tags delta tag other) (h' : Reaches tags delta other last) :
    Reaches tags delta tag last := by
  obtain ⟨presses, rfl⟩ := h
  obtain ⟨more, rfl⟩ := h'
  exact ⟨more + presses, Function.iterate_add_apply _ _ _ _⟩

/-- **What every step keeps holds of every tag that is reached.** -/
theorem Reaches.invariant {P : String → Prop} (h : Reaches tags delta tag other) (htag : P tag)
    (hstep : ∀ t, P t → P (stepFrom tags delta t)) : P other := by
  obtain ⟨presses, rfl⟩ := h
  exact Function.Iterate.rec P htag hstep presses

/-! ## Steps along tags that are all different -/

/-- Of tags that begin with different ones each of these stands first in its own place. -/
theorem position_first (hfirst : first.Nodup) (htag : first[i]? = some tag) (again : List String) :
    (first ++ again).findIdx? (· == tag) = some i := by
  obtain ⟨hi, rfl⟩ := List.getElem?_eq_some_iff.mp htag
  have hlong : i < (first ++ again).length := by
    rw [List.length_append]
    omega
  rw [List.findIdx?_eq_some_iff_getElem]
  refine ⟨hlong, ?_, ?_⟩
  · rw [List.getElem_append_left hi]
    exact beq_self_eq_true _
  · intro j hj hsame
    rw [List.getElem_append_left (by omega)] at hsame
    have hji : first[j]? = first[i]? := by
      rw [List.getElem?_eq_getElem (by omega), List.getElem?_eq_getElem hi, eq_of_beq hsame]
    have hplace := (List.getElem?_inj (by omega) hfirst).mp hji
    omega

/-- A step from one of the different tags counts on from its own place. -/
theorem stepFrom_first (hfirst : first.Nodup) (htag : first[i]? = some tag) (again : List String) (delta : Int) :
    (first ++ again)[(((i : Int) + delta) % ((first ++ again).length : Int)).toNat]? =
      some (stepFrom (first ++ again) delta tag) := by
  have hposition : (first ++ again).findIdx? (· == (⟨tag, tag⟩ : TagPicker).selected) = some i :=
    position_first hfirst htag again
  obtain ⟨next, hnext, hcycle⟩ := cycle_of_position hposition delta
  rw [hnext]
  unfold stepFrom
  rw [hcycle]
  rfl

/-- **A step to the right** leads to what stands behind a tag, and behind the last of them stands the first. -/
theorem stepRight (hfirst : first.Nodup) (htag : first[i]? = some tag) (again : List String) :
    (first ++ (again ++ first))[i + 1]? = some (stepFrom (first ++ again) 1 tag) := by
  have hi : i < first.length := (List.getElem?_eq_some_iff.mp htag).1
  have hlength : first.length ≤ (first ++ again).length := by
    rw [List.length_append]
    omega
  rw [← stepFrom_first hfirst htag again 1, ← List.append_assoc]
  by_cases hlast : i + 1 < (first ++ again).length
  · have hplace : (((i : Int) + 1) % ((first ++ again).length : Int)).toNat = i + 1 := by
      rw [Int.emod_eq_of_lt (by omega) (by omega)]
      omega
    rw [hplace, List.getElem?_append_left hlast]
  · have hwhole : (i : Int) + 1 = ((first ++ again).length : Int) := by omega
    have hplace : i + 1 - (first ++ again).length = 0 := by omega
    rw [hwhole, Int.emod_self, List.getElem?_append_right (by omega), hplace, Int.toNat_zero,
      List.getElem?_append_left (by omega)]

/-- A step to the right of the last of them leads to the next tag, or else to the first. -/
theorem stepRight_wrap (hfirst : first.Nodup) (htag : first[i]? = some tag) (hlast : i + 1 = first.length)
    (again : List String) : (again ++ first).head? = some (stepFrom (first ++ again) 1 tag) := by
  have hstep := stepRight hfirst htag again
  rw [hlast, List.getElem?_append_right (Nat.le_refl _), Nat.sub_self] at hstep
  rw [List.head?_eq_getElem?, hstep]

/-- **A step to the left** leads to what stands before a tag. -/
theorem stepLeft (hfirst : first.Nodup) (htag : first[i + 1]? = some tag) (again : List String) :
    first[i]? = some (stepFrom (first ++ again) (-1) tag) := by
  have hi : i + 1 < first.length := (List.getElem?_eq_some_iff.mp htag).1
  have hlength : first.length ≤ (first ++ again).length := by
    rw [List.length_append]
    omega
  have hplace : ((((i + 1 : Nat) : Int) + -1) % ((first ++ again).length : Int)).toNat = i := by
    rw [Int.emod_eq_of_lt (by omega) (by omega)]
    omega
  rw [← stepFrom_first hfirst htag again (-1), hplace, List.getElem?_append_left (by omega)]

/-- A step to the left of the first tag leads to the last. -/
theorem stepLeft_wrap (hfirst : first.Nodup) (htag : first[0]? = some tag) (again : List String) :
    (first ++ again).getLast? = some (stepFrom (first ++ again) (-1) tag) := by
  have hlength : 0 < (first ++ again).length := by
    rw [List.length_append]
    have := (List.getElem?_eq_some_iff.mp htag).1
    omega
  have hplace : ((((0 : Nat) : Int) + -1) % ((first ++ again).length : Int)).toNat = (first ++ again).length - 1 := by
    rw [← Int.add_emod_right, Int.emod_eq_of_lt (by omega) (by omega)]
    omega
  rw [← stepFrom_first hfirst htag again (-1), hplace, List.getLast?_eq_getElem?]

/-- A step from a tag that is not among them leads to the last tag or to the first. -/
theorem stepFrom_of_absent (h : tag ∉ tags) (hne : tags ≠ []) (delta : Int) :
    (if delta < 0 then tags.getLast? else tags.head?) = some (stepFrom tags delta tag) := by
  have habsent : (⟨tag, tag⟩ : TagPicker).selected ∉ tags := h
  obtain ⟨next, hnext, hcycle⟩ := cycle_of_absent habsent hne delta
  rw [hnext]
  unfold stepFrom
  rw [hcycle]
  rfl

/-- Steps to the right lead on from one of the different tags to a later one. -/
theorem climbs (hfirst : first.Nodup) (htag : first[i]? = some tag) (hother : first[i + j]? = some other)
    (again : List String) : Reaches (first ++ again) 1 tag other := by
  induction j generalizing other with
  | zero =>
      obtain rfl := Option.some.inj (htag.symm.trans hother)
      exact Reaches.refl _ _ _
  | succ j ih =>
      have hlt : i + j + 1 < first.length := (List.getElem?_eq_some_iff.mp hother).1
      have hbefore : first[i + j]? = some first[i + j] := List.getElem?_eq_getElem (by omega)
      have hstep := stepRight hfirst hbefore again
      rw [List.getElem?_append_left hlt] at hstep
      obtain rfl := Option.some.inj (hother.symm.trans hstep)
      exact (ih hbefore).trans (reaches_step _ _ _)

/-- Steps to the left lead back to an earlier one. -/
theorem descends (hfirst : first.Nodup) (htag : first[i]? = some tag) (hother : first[i + j]? = some other)
    (again : List String) : Reaches (first ++ again) (-1) other tag := by
  induction j generalizing other with
  | zero =>
      obtain rfl := Option.some.inj (htag.symm.trans hother)
      exact Reaches.refl _ _ _
  | succ j ih =>
      have hstep := stepLeft hfirst hother again
      exact (reaches_step _ _ _).trans (ih hstep)

/-! ## Tags that go round -/

/-- **Where the tags go round, steps to the right reach every tag**: they lead up to the last of the different tags, on to the
    first, and up from there. -/
theorem GoesRound.reachesAll_right (h : GoesRound tags) : ReachesAll tags 1 := by
  obtain ⟨first, again, rfl, hfirst, hagain, hends⟩ := h
  have hmem : ∀ t ∈ first ++ again, t ∈ first := fun t ht => (List.mem_append.mp ht).elim id fun h => hagain h
  intro chosen tag htag
  obtain ⟨j, hj⟩ := List.mem_iff_getElem?.mp (hmem tag htag)
  have hpos : 0 < first.length := List.length_pos_of_mem (hmem tag htag)
  obtain ⟨head, hhead⟩ : ∃ head, first[0]? = some head := ⟨_, List.getElem?_eq_getElem hpos⟩
  have hlead : Reaches (first ++ again) 1 chosen head := by
    by_cases hchosen : chosen ∈ first ++ again
    · obtain ⟨i, hi⟩ := List.mem_iff_getElem?.mp (hmem chosen hchosen)
      have hlt : i < first.length := (List.getElem?_eq_some_iff.mp hi).1
      obtain ⟨last, hlast⟩ : ∃ last, first[i + (first.length - 1 - i)]? = some last :=
        ⟨_, List.getElem?_eq_getElem (by omega)⟩
      -- Behind the different tags comes the first of them, whether they go on or not.
      have hwrap : (again ++ first).head? = some head := by
        rcases hends with rfl | ⟨hsame, _⟩
        · rw [List.nil_append, List.head?_eq_getElem?, hhead]
        · rw [List.head?_append, hsame, List.head?_eq_getElem?, hhead, Option.some_or]
      have hover := stepRight_wrap hfirst hlast (by omega) again
      rw [hwrap] at hover
      apply (climbs hfirst hi hlast again).trans
      rw [Option.some.inj hover]
      exact reaches_step _ _ _
    · have hover := stepFrom_of_absent hchosen (List.ne_nil_of_mem htag) 1
      rw [if_neg (by decide), List.head?_append, List.head?_eq_getElem?, hhead, Option.some_or] at hover
      rw [Option.some.inj hover]
      exact reaches_step _ _ _
  have hup : first[0 + j]? = some tag := by rw [Nat.zero_add, hj]
  exact hlead.trans (climbs hfirst hhead hup again)

/-- **And so do steps to the left**: they lead down to the first, on to the last, and down from there. -/
theorem GoesRound.reachesAll_left (h : GoesRound tags) : ReachesAll tags (-1) := by
  obtain ⟨first, again, rfl, hfirst, hagain, hends⟩ := h
  have hmem : ∀ t ∈ first ++ again, t ∈ first := fun t ht => (List.mem_append.mp ht).elim id fun h => hagain h
  intro chosen tag htag
  obtain ⟨j, hj⟩ := List.mem_iff_getElem?.mp (hmem tag htag)
  have hlt : j < first.length := (List.getElem?_eq_some_iff.mp hj).1
  obtain ⟨last, hlast⟩ : ∃ last, first[j + (first.length - 1 - j)]? = some last :=
    ⟨_, List.getElem?_eq_getElem (by omega)⟩
  have hend : (first ++ again).getLast? = some last := by
    have hplace : j + (first.length - 1 - j) = first.length - 1 := by omega
    rw [hplace, ← List.getLast?_eq_getElem?] at hlast
    rcases hends with rfl | ⟨_, hsame⟩
    · rw [List.append_nil, hlast]
    · rw [List.getLast?_append, hsame, hlast, Option.some_or]
  have hlead : Reaches (first ++ again) (-1) chosen last := by
    by_cases hchosen : chosen ∈ first ++ again
    · obtain ⟨i, hi⟩ := List.mem_iff_getElem?.mp (hmem chosen hchosen)
      obtain ⟨head, hhead⟩ : ∃ head, first[0]? = some head := ⟨_, List.getElem?_eq_getElem (by omega)⟩
      have hover := stepLeft_wrap hfirst hhead again
      rw [hend] at hover
      have hdown : first[0 + i]? = some chosen := by rw [Nat.zero_add, hi]
      apply (descends hfirst hhead hdown again).trans
      rw [Option.some.inj hover]
      exact reaches_step _ _ _
    · have hover := stepFrom_of_absent hchosen (List.ne_nil_of_mem htag) (-1)
      rw [if_pos (by decide), hend] at hover
      rw [Option.some.inj hover]
      exact reaches_step _ _ _
  exact hlead.trans (descends hfirst hj hlast again)

/-! ## Tags that do not -/

/-- **Tags are all different up to a first one that stood before**, if there is one. -/
theorem exists_first_repeat (tags : List String) :
    ∃ first again, tags = first ++ again ∧ first.Nodup ∧ (again = [] ∨ ∃ tag ∈ first, again.head? = some tag) := by
  induction tags using List.reverseRecOn with
  | nil => exact ⟨[], [], rfl, List.nodup_nil, .inl rfl⟩
  | append_singleton tags tag ih =>
      obtain ⟨first, again, rfl, hfirst, hagain⟩ := ih
      rcases hagain with rfl | ⟨old, hold, hhead⟩
      · rw [List.append_nil]
        by_cases hknown : tag ∈ first
        · exact ⟨first, [tag], rfl, hfirst, .inr ⟨tag, hknown, rfl⟩⟩
        · refine ⟨first ++ [tag], [], (List.append_nil _).symm, ?_, .inl rfl⟩
          refine List.nodup_append.mpr ⟨hfirst, List.pairwise_singleton _ _, ?_⟩
          intro old hold new hnew hsame
          rw [hsame, List.mem_singleton.mp hnew] at hold
          exact hknown hold
      · refine ⟨first, again ++ [tag], List.append_assoc _ _ _, hfirst, .inr ⟨old, hold, ?_⟩⟩
        rw [List.head?_append, hhead, Option.some_or]

/-- **Steps to the right do not come below the place that they jump back to.** -/
theorem stays_above (hfirst : first.Nodup) (hback : (again ++ first).head? = first[i]?)
    (htag : ∃ j, i ≤ j ∧ first[j]? = some tag) (h : Reaches (first ++ again) 1 tag other) :
    ∃ j, i ≤ j ∧ first[j]? = some other := by
  apply h.invariant (P := fun t => ∃ j, i ≤ j ∧ first[j]? = some t) htag
  rintro t ⟨j, hij, hj⟩
  have hlt : j < first.length := (List.getElem?_eq_some_iff.mp hj).1
  by_cases hlast : j + 1 < first.length
  · have hstep := stepRight hfirst hj again
    rw [List.getElem?_append_left hlast] at hstep
    exact ⟨j + 1, by omega, hstep⟩
  · have hstep := stepRight_wrap hfirst hj (by omega) again
    rw [hback] at hstep
    exact ⟨i, Nat.le_refl i, hstep⟩

/-- **Steps to the left do not come above the place of the last tag.** -/
theorem stays_below (hfirst : first.Nodup) (hend : (first ++ again).getLast? = first[i]?)
    (htag : ∃ j, j ≤ i ∧ first[j]? = some tag) (h : Reaches (first ++ again) (-1) tag other) :
    ∃ j, j ≤ i ∧ first[j]? = some other := by
  apply h.invariant (P := fun t => ∃ j, j ≤ i ∧ first[j]? = some t) htag
  rintro t ⟨j, hij, hj⟩
  cases j with
  | zero =>
      have hstep := stepLeft_wrap hfirst hj again
      rw [hend] at hstep
      exact ⟨i, Nat.le_refl i, hstep⟩
  | succ j => exact ⟨j, by omega, stepLeft hfirst hj again⟩

/-- **If steps to the right reach every tag, the tags go on with the first of them**, and repeat only tags that they have
    named. -/
theorem again_of_reachesAll_right (h : ReachesAll (first ++ again) 1) (hfirst : first.Nodup) (htag : tag ∈ first)
    (hhead : again.head? = some tag) : again ⊆ first ∧ again.head? = first.head? := by
  obtain ⟨i, hi⟩ := List.mem_iff_getElem?.mp htag
  have hpos : 0 < first.length := List.length_pos_of_mem htag
  have hzero : first[0]? = some first[0] := List.getElem?_eq_getElem hpos
  have hback : (again ++ first).head? = first[i]? := by rw [List.head?_append, hhead, Option.some_or, hi]
  -- Whoever starts at the tag that stands again stays at its place or above.
  have habove : ∀ t ∈ first ++ again, ∃ j, i ≤ j ∧ first[j]? = some t := by
    intro t ht
    exact stays_above hfirst hback ⟨i, Nat.le_refl i, hi⟩ (h tag t ht)
  constructor
  · intro t ht
    obtain ⟨j, _, hj⟩ := habove t (List.mem_append_right first ht)
    exact List.mem_of_getElem? hj
  · obtain ⟨j, hij, hj⟩ := habove first[0] (List.mem_append_left again (List.getElem_mem hpos))
    have hplace : 0 = j := (List.getElem?_inj hpos hfirst).mp (hzero.trans hj.symm)
    obtain rfl : i = 0 := by omega
    rw [hhead, List.head?_eq_getElem?, hi]

/-- **If steps to the left reach every tag, the tags end with the last of the different ones.** -/
theorem getLast?_of_reachesAll_left (h : ReachesAll (first ++ again) (-1)) (hfirst : first.Nodup)
    (hagain : again ⊆ first) (hne : again ≠ []) : again.getLast? = first.getLast? := by
  obtain ⟨i, hi⟩ := List.mem_iff_getElem?.mp (hagain (List.getLast_mem hne))
  have hlt : i < first.length := (List.getElem?_eq_some_iff.mp hi).1
  have hzero : first[0]? = some first[0] := List.getElem?_eq_getElem (by omega)
  have hend : again.getLast? = first[i]? := by rw [List.getLast?_eq_some_getLast hne, hi]
  have hend' : (first ++ again).getLast? = first[i]? := by rw [List.getLast?_append, hend, hi, Option.some_or]
  -- Whoever starts at the first tag stays at the place of the last one or below.
  have hlast : first[first.length - 1]? = some first[first.length - 1] := List.getElem?_eq_getElem (by omega)
  have hmem : first[first.length - 1] ∈ first ++ again := List.mem_append_left again (List.getElem_mem (by omega))
  obtain ⟨j, hji, hj⟩ := stays_below hfirst hend' ⟨0, Nat.zero_le i, hzero⟩ (h first[0] _ hmem)
  have hplace : first.length - 1 = j := (List.getElem?_inj (by omega) hfirst).mp (hlast.trans hj.symm)
  obtain rfl : i = first.length - 1 := by omega
  rw [hend, List.getLast?_eq_getElem?]

/-- **Steps in both directions reach every tag exactly when the tags go round.** -/
theorem reachesAll_iff_goesRound (tags : List String) :
    ReachesAll tags 1 ∧ ReachesAll tags (-1) ↔ GoesRound tags := by
  constructor
  · rintro ⟨hright, hleft⟩
    obtain ⟨first, again, rfl, hfirst, rfl | ⟨tag, htag, hhead⟩⟩ := exists_first_repeat tags
    · rw [List.append_nil]
      exact goesRound_of_nodup hfirst
    · obtain ⟨hagain, hsame⟩ := again_of_reachesAll_right hright hfirst htag hhead
      have hne : again ≠ [] := by
        rintro rfl
        cases hhead
      exact ⟨first, again, rfl, hfirst, hagain, .inr ⟨hsame, getLast?_of_reachesAll_left hleft hfirst hagain hne⟩⟩
  · intro h
    exact ⟨h.reachesAll_right, h.reachesAll_left⟩

end TagPicker
end DeployBoard
