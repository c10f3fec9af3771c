import DeployBoard.Index.Terms
import Mathlib.Data.List.Sort

/-!
# `Proofs.Index.Terms` — sets of terms and what they hit

A set of terms is told by its members (`eq_of_mem_iff`). What it hits grows with it: a set with more terms hits more
(`hits_mono`), the union of two sets hits what either of them hits (`hits_union`), and with a term more comes what
contains that term in lower case (`hits_insert_iff`). The empty set hits nothing (`isEmpty_of_hits`).
-/

namespace DeployBoard
namespace Terms

open Text

variable {terms more : Terms} {item : String}

/-- **A set of terms is told by its members.** -/
theorem eq_of_mem_iff {a b : Terms} (h : ∀ t, t ∈ a ↔ t ∈ b) : a = b :=
  eq_of_terms_eq (a.ascending.eq_of_mem_iff b.ascending h)

/-- The terms of either set. -/
def union (a b : Terms) : Terms :=
  ⟨b.terms.foldr insertAscending a.terms,
    List.foldrRecOn b.terms insertAscending a.ascending fun _ h t _ => insertAscending_ascending t h⟩

instance : Union Terms := ⟨union⟩

@[simp] theorem mem_union {a b : Terms} {t : String} : t ∈ a ∪ b ↔ t ∈ a ∨ t ∈ b := by
  show t ∈ b.terms.foldr insertAscending a.terms ↔ t ∈ a ∨ t ∈ b.terms
  induction b.terms with
  | nil => simp; rfl
  | cons hd rest ih => rw [List.foldr_cons, mem_insertAscending, ih, List.mem_cons, or_left_comm]

/-- **The terms of either set hit** what one of the sets hits. -/
theorem hits_union (a b : Terms) (candidate : String) :
    (a ∪ b).hits candidate = true ↔ a.hits candidate = true ∨ b.hits candidate = true := by
  simp only [hits_iff, mem_union, or_and_right, exists_or]

/-- **A term more hits** what the set hits, and what contains the term in lower case. -/
theorem hits_insert_iff {term : String} (hfilled : isBlankText term = false) :
    (terms.insert term).hits item = true ↔
      terms.hits item = true ∨ (lowercase term).toList <:+: (lowercase item).toList := by
  simp only [hits_iff, mem_insert_iff, hfilled, true_and]
  constructor
  · rintro ⟨t, rfl | ht, hpart⟩
    · exact .inr hpart
    · exact .inl ⟨t, ht, hpart⟩
  · rintro (⟨t, ht, hpart⟩ | hpart)
    · exact ⟨t, .inr ht, hpart⟩
    · exact ⟨_, .inl rfl, hpart⟩

theorem hits_mono (h : ∀ t ∈ terms, t ∈ more) (hhit : terms.hits item = true) : more.hits item = true := by
  obtain ⟨t, ht, hpart⟩ := hits_iff.mp hhit
  exact hits_iff.mpr ⟨t, h t ht, hpart⟩

theorem isEmpty_eq_false_iff : terms.isEmpty = false ↔ ∃ t, t ∈ terms := by
  unfold isEmpty
  rw [List.isEmpty_eq_false_iff_exists_mem]
  rfl

/-- What hits something has a term. -/
theorem isEmpty_of_hits (h : terms.hits item = true) : terms.isEmpty = false := by
  obtain ⟨t, ht, _⟩ := hits_iff.mp h
  exact isEmpty_eq_false_iff.mpr ⟨t, ht⟩

end Terms
end DeployBoard
