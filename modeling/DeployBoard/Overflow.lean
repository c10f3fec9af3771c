/-!
# `Overflow` — sums that leave their machine word

Steps of the cursor, of a tag picker and of the highlight, and the geometry of the popup, are computed in machine words. A
sum that does not fit its word is an error of its own, never a wrapped value, and so is a difference.
-/

namespace DeployBoard

/-- What is computed in machine words. -/
inductive Arithmetic where
  | add
  | subtract
  deriving DecidableEq, Repr

/-- **A sum left its machine word**, or a difference did. -/
structure Overflow where
  operation : Arithmetic := .add
  deriving DecidableEq, Repr

/-- The message of the error. -/
def Overflow.message (e : Overflow) : String :=
  match e.operation with
  | .add => "attempt to add with overflow"
  | .subtract => "attempt to subtract with overflow"

/-- `n` fits a signed word of 64 bits. -/
def fitsSigned64 (n : Int) : Bool := -0x8000000000000000 ≤ n && n < 0x8000000000000000

/-- The sum of two numbers as a signed word of 64 bits. -/
def addSigned64 (a b : Int) : Except Overflow Int :=
  if fitsSigned64 (a + b) then .ok (a + b) else .error {}

/-- The sum of two numbers as an unsigned word of 16 bits. -/
def addUnsigned16 (a b : Nat) : Except Overflow Nat :=
  if a + b < 0x10000 then .ok (a + b) else .error {}

/-- The sum of two numbers as an unsigned word of 64 bits. -/
def addUnsigned64 (a b : Nat) : Except Overflow Nat :=
  if a + b < 0x10000000000000000 then .ok (a + b) else .error {}

/-- The difference of two numbers as an unsigned word. -/
def subUnsigned (a b : Nat) : Except Overflow Nat := if b ≤ a then .ok (a - b) else .error { operation := .subtract }

theorem fitsSigned64_iff {n : Int} :
    fitsSigned64 n = true ↔ -0x8000000000000000 ≤ n ∧ n < 0x8000000000000000 := by
  simp [fitsSigned64]

/-- A place and a step in a word leave it only upwards. -/
theorem fitsSigned64_place_iff {delta : Int} (hdelta : fitsSigned64 delta = true) (place : Nat) :
    fitsSigned64 (place + delta) = true ↔ (place : Int) + delta < 0x8000000000000000 := by
  rw [fitsSigned64_iff] at hdelta ⊢
  omega

theorem addSigned64_eq_ok_iff {a b sum : Int} :
    addSigned64 a b = .ok sum ↔ fitsSigned64 (a + b) = true ∧ a + b = sum := by
  unfold addSigned64
  split
  · rename_i h
    simp [h]
  · rename_i h
    simp [h]

theorem addSigned64_of_not_fits {a b : Int} (h : fitsSigned64 (a + b) = false) : addSigned64 a b = .error {} :=
  if_neg (by simp [h])

/-- What follows a sum is done exactly when the sum is. -/
theorem map_eq_ok_iff {α β : Type} {x : Except Overflow α} {f : α → β} {result : β} :
    x.map f = .ok result ↔ ∃ value, x = .ok value ∧ f value = result := by
  cases x with
  | error e => simp [Except.map]
  | ok value => simp [Except.map]

theorem addUnsigned16_of_lt {a b : Nat} (h : a + b < 0x10000) : addUnsigned16 a b = .ok (a + b) := if_pos h

theorem addUnsigned16_of_le {a b : Nat} (h : 0x10000 ≤ a + b) : addUnsigned16 a b = .error {} :=
  if_neg (Nat.not_lt.mpr h)

theorem addUnsigned64_of_lt {a b : Nat} (h : a + b < 0x10000000000000000) : addUnsigned64 a b = .ok (a + b) := if_pos h

theorem subUnsigned_of_le {a b : Nat} (h : b ≤ a) : subUnsigned a b = .ok (a - b) := if_pos h

end DeployBoard
