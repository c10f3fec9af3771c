import DeployBoard.Text.Width

/-!
# `Proofs.Text.Width` — what is kept of a text that is cut

Whatever the widths of characters, cutting keeps the longest first part of a text that fits (`longestFitting_takeColumns`).
A part that goes on is never narrower, so everything that fits is a first part of what is kept, and that tells what is kept
(`LongestFitting.unique`). Cutting to two widths, one after the other, is cutting to the smaller of them
(`truncateWith_truncateWith`).
-/

namespace DeployBoard.Text

/-- **The longest first part of `cs` that fits** into `room` columns: whatever else fits is a first part of it. -/
structure LongestFitting (width : Char → Nat) (room : Nat) (cs kept : List Char) : Prop where
  isFirst : kept <+: cs
  fits : columnsOf width kept ≤ room
  longest : ∀ part, part <+: cs → columnsOf width part ≤ room → part <+: kept

variable {width : Char → Nat} {room less : Nat} {cs kept part : List Char} {s : String}

/-- A first part is not wider than the whole. -/
theorem columnsOf_mono (h : part <+: cs) : columnsOf width part ≤ columnsOf width cs := by
  induction cs generalizing part with
  | nil =>
      have hempty : part = [] := List.prefix_nil.mp h
      subst hempty
      exact Nat.le_refl 0
  | cons c cs ih =>
      rcases List.prefix_cons_iff.mp h with rfl | ⟨rest, rfl, hrest⟩
      · exact Nat.zero_le _
      · rw [columnsOf_cons, columnsOf_cons]
        exact Nat.add_le_add_left (ih hrest) _

/-- **Cutting keeps the longest first part that fits.** -/
theorem longestFitting_takeColumns (width : Char → Nat) (room : Nat) (cs : List Char) :
    LongestFitting width room cs (takeColumns width room cs) where
  isFirst := takeColumns_prefix width room cs
  fits := columnsOf_takeColumns_le width room cs
  longest := by
    induction cs generalizing room with
    | nil =>
        intro part hpart _
        exact hpart
    | cons c cs ih =>
        intro part hpart hfits
        rcases List.prefix_cons_iff.mp hpart with rfl | ⟨rest, rfl, hrest⟩
        · exact List.nil_prefix
        · -- What fits begins with `c`, so `c` is kept, and the rest fits into what `c` leaves.
          rw [columnsOf_cons] at hfits
          have hroom : width c ≤ room := by omega
          rw [takeColumns, if_pos hroom]
          exact (List.prefix_cons_inj c).mpr (ih (room - width c) rest hrest (by omega))

/-- There is one longest first part that fits. -/
theorem LongestFitting.unique {other : List Char} (h : LongestFitting width room cs kept)
    (hother : LongestFitting width room cs other) : kept = other := by
  have hle : kept <+: other := hother.longest kept h.isFirst h.fits
  have hge : other <+: kept := h.longest other hother.isFirst hother.fits
  exact hle.eq_of_length (Nat.le_antisymm hle.length_le hge.length_le)

/-- **Of the longest part that fits, the longest part that fits into `less`** is that of the whole, for the smaller room. -/
theorem LongestFitting.trans (h : LongestFitting width room cs kept) (hpart : LongestFitting width less kept part) :
    LongestFitting width (min room less) cs part where
  isFirst := hpart.isFirst.trans h.isFirst
  fits := by
    have hroom : columnsOf width part ≤ room := Nat.le_trans (columnsOf_mono hpart.isFirst) h.fits
    exact Nat.le_min.mpr ⟨hroom, hpart.fits⟩
  longest := by
    intro other hother hfits
    obtain ⟨hroom, hless⟩ := Nat.le_min.mp hfits
    exact hpart.longest other (h.longest other hother hroom) hless

/-! ## Texts -/

theorem truncateWith_zero (width : Char → Nat) (s : String) : truncateWith width s 0 = "" := rfl

theorem toList_truncateWith (h : room ≠ 0) : (truncateWith width s room).toList = takeColumns width room s.toList := by
  unfold truncateWith
  rw [if_neg h, String.toList_ofList]

/-- **What is kept of a text fits**, into no column too. -/
theorem columnsOf_truncateWith_le (width : Char → Nat) (s : String) (room : Nat) :
    columnsOf width (truncateWith width s room).toList ≤ room := by
  by_cases hroom : room = 0
  · subst hroom
    exact Nat.le_refl 0
  · rw [toList_truncateWith hroom]
    exact columnsOf_takeColumns_le width room s.toList

/-- **Cutting twice is cutting to the smaller width.** -/
theorem truncateWith_truncateWith (width : Char → Nat) (s : String) (room less : Nat) :
    truncateWith width (truncateWith width s room) less = truncateWith width s (min room less) := by
  by_cases hroom : room = 0
  · subst hroom
    rw [Nat.zero_min, truncateWith_zero]
    unfold truncateWith
    split <;> rfl
  by_cases hless : less = 0
  · subst hless
    rw [Nat.min_zero, truncateWith_zero, truncateWith_zero]
  have hmin : min room less ≠ 0 := by omega
  apply String.toList_injective
  rw [toList_truncateWith hless, toList_truncateWith hroom, toList_truncateWith hmin]
  have htwice := (longestFitting_takeColumns width room s.toList).trans (longestFitting_takeColumns width less _)
  exact htwice.unique (longestFitting_takeColumns width _ _)

end DeployBoard.Text
