import DeployBoard.Text.Numeral

/-!
# `Proofs.Text.Numeral` — which texts are numbers

A number is one digit or more, perhaps behind a plus sign, whose value fits a word of 64 bits (`unsigned?`). The reader
gives up at the first digit that makes the value too large; since more digits never make it smaller, it gives up only on
texts that are too large as a whole (`toOption_readUnsigned64`).
-/

namespace DeployBoard.Text

/-- What stands behind the plus sign, if there is one. -/
def unsignedDigits (s : String) : List Char :=
  match s.toList with
  | '+' :: cs => cs
  | cs => cs

/-- **The digits write a number of 64 bits.** -/
def FitsWord (digits : List Char) (n : Nat) : Prop :=
  (∀ c ∈ digits, c.isDigit = true) ∧ Nat.ofDigitChars 10 digits n < 0x10000000000000000

instance (digits : List Char) (n : Nat) : Decidable (FitsWord digits n) :=
  inferInstanceAs (Decidable (_ ∧ _))

/-- **The unsigned number of 64 bits that a text is**, if it is one. -/
def unsigned? (s : String) : Option Nat :=
  if unsignedDigits s ≠ [] ∧ FitsWord (unsignedDigits s) 0 then some (Nat.ofDigitChars 10 (unsignedDigits s) 0) else none

/-! ## Digits -/

variable {c : Char} {cs : List Char} {n : Nat}

/-- **More digits do not make a number smaller.** -/
theorem le_ofDigitChars (cs : List Char) (n : Nat) : n ≤ Nat.ofDigitChars 10 cs n := by
  induction cs generalizing n with
  | nil => exact Nat.le_of_eq Nat.ofDigitChars_nil.symm
  | cons c cs ih =>
      rw [Nat.ofDigitChars_cons]
      have hrest := ih (10 * n + (c.toNat - '0'.toNat))
      omega

theorem fitsWord_nil (h : n < 0x10000000000000000) : FitsWord [] n := by
  refine ⟨fun _ hmem => absurd hmem List.not_mem_nil, ?_⟩
  rwa [Nat.ofDigitChars_nil]

theorem fitsWord_cons :
    FitsWord (c :: cs) n ↔ c.isDigit = true ∧ FitsWord cs (10 * n + (c.toNat - '0'.toNat)) := by
  unfold FitsWord
  rw [List.forall_mem_cons, Nat.ofDigitChars_cons, and_assoc]

/-- Digits after a number that does not fit do not fit. -/
theorem not_fitsWord (cs : List Char) (h : 0x10000000000000000 ≤ n) : ¬ FitsWord cs n := by
  intro hfits
  exact absurd hfits.2 (Nat.not_lt.mpr (Nat.le_trans h (le_ofDigitChars cs n)))

/-- **Digits are read exactly if they fit**, whatever was read before. -/
theorem toOption_readDigits (h : n < 0x10000000000000000) :
    (readDigits n cs).toOption = if FitsWord cs n then some (Nat.ofDigitChars 10 cs n) else none := by
  induction cs generalizing n with
  | nil =>
      rw [if_pos (fitsWord_nil h), Nat.ofDigitChars_nil]
      rfl
  | cons c cs ih =>
      have hnext : n * 10 + (c.toNat - 48) = 10 * n + (c.toNat - '0'.toNat) := by
        rw [Nat.mul_comm]
        rfl
      simp only [readDigits, hnext, fitsWord_cons, Nat.ofDigitChars_cons]
      by_cases hdigit : c.isDigit = true
      · by_cases hlt : 10 * n + (c.toNat - '0'.toNat) < 0x10000000000000000
        · rw [if_pos hdigit, if_pos hlt, ih hlt]
          simp only [hdigit, true_and]
        · -- The reader stops here, and whatever digits follow, the text is too large.
          have hnot := not_fitsWord cs (Nat.le_of_not_lt hlt)
          rw [if_pos hdigit, if_neg hlt, if_neg fun hboth => hnot hboth.2]
          rfl
      · rw [if_neg hdigit, if_neg fun hboth => hdigit hboth.1]
        rfl

/-! ## Whole texts -/

/-- What is read is the digits, if there are any. -/
theorem readUnsigned64_eq_readDigits {s : String} (h : unsignedDigits s ≠ []) :
    readUnsigned64 s = readDigits 0 (unsignedDigits s) := by
  unfold readUnsigned64
  unfold unsignedDigits at h ⊢
  split
  · rename_i hs
    rw [hs] at h
    exact absurd rfl h
  · rename_i hs
    rw [hs] at h
    exact absurd rfl h
  · rename_i hs
    rw [hs]
    rfl
  · rename_i hplus
    split
    · rename_i cs hs
      exact absurd hs (hplus cs)
    · rfl

/-- A text without digits is not read. -/
theorem readUnsigned64_eq_error {s : String} (h : unsignedDigits s = []) : ∃ e, readUnsigned64 s = .error e := by
  unfold unsignedDigits at h
  unfold readUnsigned64
  split at h
  · rename_i cs hs
    rw [hs, h]
    exact ⟨_, rfl⟩
  · rw [h]
    exact ⟨_, rfl⟩

/-- **A text is read exactly if it is a number of 64 bits**, and then as that number. -/
theorem toOption_readUnsigned64 (s : String) : (readUnsigned64 s).toOption = unsigned? s := by
  unfold unsigned?
  by_cases hnil : unsignedDigits s = []
  · obtain ⟨e, he⟩ := readUnsigned64_eq_error hnil
    rw [he, if_neg fun hboth => hboth.1 hnil]
    rfl
  · rw [readUnsigned64_eq_readDigits hnil, toOption_readDigits (by decide)]
    simp only [hnil, ne_eq, not_false_eq_true, true_and]

end DeployBoard.Text
