import DeployBoard.Proofs.TagPicker

/-!
# `Proofs.TagPicker.Composition` — steps through tags add up

Along tags that are all different, the chosen tag tells its place, so nothing is lost when a step ends: two steps, one after
the other, lead where one step by their sum leads (`cycle_cycle`), and a step by the number of tags, or by a multiple
of it, leads back (`cycle_of_dvd`).

That is so as long as the sums fit their words. A step adds its size to the place that it starts from before it wraps, and
it is made exactly when this sum fits (`cycle?_eq_ok_iff`). So two steps may be made, and their sum may fit a word,
while the one step by the sum is not made, because it starts further on: `steps_add_up_iff`.
-/

namespace DeployBoard
namespace TagPicker

variable {tags : List String} {picker : TagPicker} {tag : String} {i : Nat}

/-! ## Steps along tags that are all different -/

/-- Of tags that are all different each has one place. -/
theorem position_of_nodup (hnodup : tags.Nodup) (htag : tags[i]? = some tag) :
    tags.findIdx? (· == tag) = some i := by
  have hposition := position_first hnodup htag []
  rwa [List.append_nil] at hposition

/-- **Two steps are one step by their sum.** -/
theorem cycle_cycle (hnodup : tags.Nodup) (htag : tags[i]? = some picker.selected) (first second : Int) :
    (picker.cycle tags first).cycle tags second = picker.cycle tags (first + second) := by
  have hposition := position_of_nodup hnodup htag
  obtain ⟨middle, hmiddle, hfirst⟩ := cycle_of_position hposition first
  have hposition' : tags.findIdx? (· == (picker.select middle).selected) = some _ :=
    position_of_nodup hnodup hmiddle
  obtain ⟨last, hlast, hsecond⟩ := cycle_of_position hposition' second
  obtain ⟨other, hother, hsum⟩ := cycle_of_position hposition (first + second)
  have hlength : 0 < tags.length := by
    have := (List.getElem?_eq_some_iff.mp htag).1
    omega
  have hnonneg : 0 ≤ ((i : Int) + first) % (tags.length : Int) := Int.emod_nonneg _ (by omega)
  -- The second step counts on from the place where the first one ends, and that is known up to wrapping.
  rw [Int.toNat_of_nonneg hnonneg, Int.emod_add_emod, Int.add_assoc, hother] at hlast
  rw [hfirst, hsecond, hsum, Option.some.inj hlast]
  rfl

/-- **A step by a multiple of the number of tags leads back.** -/
theorem cycle_of_dvd (hnodup : tags.Nodup) (htag : tags[i]? = some picker.selected) {delta : Int}
    (hdelta : (tags.length : Int) ∣ delta) : picker.cycle tags delta = picker.select picker.selected := by
  obtain ⟨next, hnext, hcycle⟩ := cycle_of_position (position_of_nodup hnodup htag) delta
  have hlt : i < tags.length := (List.getElem?_eq_some_iff.mp htag).1
  have hplace : ((i : Int) + delta) % (tags.length : Int) = i := by
    obtain ⟨times, rfl⟩ := hdelta
    rw [Int.add_mul_emod_self_left, Int.emod_eq_of_lt (by omega) (by omega)]
  rw [hplace, Int.toNat_natCast, htag] at hnext
  rw [hcycle, Option.some.inj hnext]

/-! ## Steps in machine words -/

/-- **A step from a place is made exactly when the place and the step fit a word together.** -/
theorem cycle?_eq_ok_iff (hposition : tags.findIdx? (· == picker.selected) = some i) {delta : Int} {next : TagPicker} :
    picker.cycle? tags delta = .ok next ↔ fitsSigned64 (i + delta) = true ∧ picker.cycle tags delta = next := by
  unfold cycle?
  rw [hposition]
  simp only [map_eq_ok_iff, addSigned64_eq_ok_iff, and_assoc, exists_and_left, exists_eq_left']

/-- From elsewhere every step is made. -/
theorem cycle?_of_absent (h : picker.selected ∉ tags) (delta : Int) :
    picker.cycle? tags delta = .ok (picker.cycle tags delta) := by
  unfold cycle?
  rw [position_of_absent h]

/-- After a step from a place the input shows the chosen tag. -/
theorem input_cycle (hposition : tags.findIdx? (· == picker.selected) = some i) (delta : Int) :
    (picker.cycle tags delta).input = (picker.cycle tags delta).selected := by
  obtain ⟨next, _, hcycle⟩ := cycle_of_position hposition delta
  rw [hcycle]
  rfl

/-- Two steps that are made lead where the step by their sum would lead. -/
theorem cycle_add_of_made (hnodup : tags.Nodup) (htag : tags[i]? = some picker.selected) {first second : Int}
    {middle last : TagPicker} (hfirst : picker.cycle? tags first = .ok middle)
    (hsecond : middle.cycle? tags second = .ok last) : picker.cycle tags (first + second) = last := by
  have hposition := position_of_nodup hnodup htag
  obtain ⟨_, rfl⟩ := (cycle?_eq_ok_iff hposition).mp hfirst
  obtain ⟨next, hnext, hcycle⟩ := cycle_of_position hposition first
  have hnext' := position_of_nodup hnodup hnext
  rw [← cycle_cycle hnodup htag, hcycle]
  rw [hcycle] at hsecond
  exact ((cycle?_eq_ok_iff hnext').mp hsecond).2

/-- **When steps add up.** Let the tags be all different. From a place among them a step is made exactly when the place and the
    step fit a word together. If two steps are made, one after the other, and their sum is a word, then one step by their
    sum leads to the same picker exactly when the place and that sum fit a word together, and is not made otherwise. A step
    that is made and then back, or by the number of tags, leads back to the tag that was chosen, and the
    input shows what a step has chosen. From elsewhere every step is made, backwards to the last tag and otherwise to the
    first, if there are tags. -/
theorem steps_add_up_iff (hnodup : tags.Nodup) (picker : TagPicker) :
    (∀ i : Nat, tags[i]? = some picker.selected →
      (∀ delta : Int, (∃ next, picker.cycle? tags delta = .ok next) ↔ fitsSigned64 (i + delta) = true) ∧
      (∀ (first second : Int) (middle last : TagPicker),
        picker.cycle? tags first = .ok middle → middle.cycle? tags second = .ok last →
          fitsSigned64 (first + second) = true →
            (picker.cycle? tags (first + second) = .ok last ↔ fitsSigned64 (i + (first + second)) = true)) ∧
      (∀ (delta : Int) (there back : TagPicker),
        picker.cycle? tags delta = .ok there → there.cycle? tags (-delta) = .ok back →
          back.selected = picker.selected) ∧
      (∀ next, picker.cycle? tags tags.length = .ok next → next.selected = picker.selected) ∧
      ∀ (delta : Int) (next : TagPicker), picker.cycle? tags delta = .ok next → next.input = next.selected) ∧
    (picker.selected ∉ tags → ∀ delta : Int,
      picker.cycle? tags delta =
        .ok ((if delta < 0 then tags.getLast? else tags.head?).elim picker picker.select)) := by
  constructor
  · intro i htag
    have hposition := position_of_nodup hnodup htag
    refine ⟨?_, ?_, ?_, ?_, ?_⟩
    · intro delta
      simp only [cycle?_eq_ok_iff hposition, exists_and_left, exists_eq', and_true]
    · intro first second middle last hfirst hsecond _
      rw [cycle?_eq_ok_iff hposition]
      exact and_iff_left (cycle_add_of_made hnodup htag hfirst hsecond)
    · intro delta there back hthere hback
      rw [← cycle_add_of_made hnodup htag hthere hback, Int.add_right_neg,
        cycle_of_dvd hnodup htag (Int.dvd_zero _)]
      rfl
    · intro next hnext
      rw [← ((cycle?_eq_ok_iff hposition).mp hnext).2, cycle_of_dvd hnodup htag (Int.dvd_refl _)]
      rfl
    · intro delta next hnext
      rw [← ((cycle?_eq_ok_iff hposition).mp hnext).2]
      exact input_cycle hposition delta
  · intro habsent delta
    rw [cycle?_of_absent habsent]
    by_cases hne : tags = []
    · subst hne
      rw [List.getLast?_nil, List.head?_nil, ite_self, Option.elim_none]
      rfl
    · obtain ⟨tag, htag, hcycle⟩ := cycle_of_absent habsent hne delta
      rw [htag, hcycle, Option.elim_some]

/-- From "v2" four steps to the right and five to the left lead to "v1", as one step to the left does. -/
theorem steps_add_up_across_ends :
    ["v1", "v2", "v3"].Nodup ∧ cycle? ⟨"v2", "v"⟩ ["v1", "v2", "v3"] 4 = .ok ⟨"v3", "v3"⟩ ∧
      cycle? ⟨"v3", "v3"⟩ ["v1", "v2", "v3"] (-5) = .ok ⟨"v1", "v1"⟩ ∧
      cycle? ⟨"v2", "v"⟩ ["v1", "v2", "v3"] (4 + -5) = .ok ⟨"v1", "v1"⟩ := by
  have hnodup : ["v1", "v2", "v3"].Nodup := by decide
  have hfirst : cycle? ⟨"v2", "v"⟩ ["v1", "v2", "v3"] 4 = .ok ⟨"v3", "v3"⟩ := by decide
  have hsecond : cycle? ⟨"v3", "v3"⟩ ["v1", "v2", "v3"] (-5) = .ok ⟨"v1", "v1"⟩ := by decide
  have hlaws := (steps_add_up_iff hnodup ⟨"v2", "v"⟩).1 1 rfl
  exact ⟨hnodup, hfirst, hsecond, (hlaws.2.1 4 (-5) _ _ hfirst hsecond (by decide)).mpr (by decide)⟩

/-- **Two steps that are made need not add up**: from the second of two tags the largest step but one is made, and so is a step by
    one after it. Their sum is the largest word, and a step by it is not made. -/
theorem steps_not_added_up :
    ["v1", "v2"].Nodup ∧ "v2" ∈ ["v1", "v2"] ∧
      cycle? ⟨"v2", "v2"⟩ ["v1", "v2"] 0x7FFFFFFFFFFFFFFE = .ok ⟨"v2", "v2"⟩ ∧
      cycle? ⟨"v2", "v2"⟩ ["v1", "v2"] 1 = .ok ⟨"v1", "v1"⟩ ∧
      fitsSigned64 (0x7FFFFFFFFFFFFFFE + 1) = true ∧
      cycle? ⟨"v2", "v2"⟩ ["v1", "v2"] (0x7FFFFFFFFFFFFFFE + 1) = .error {} := by
  decide

end TagPicker
end DeployBoard
