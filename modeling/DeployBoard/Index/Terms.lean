import DeployBoard.Text.Blank
import DeployBoard.Text.Lowercase
import DeployBoard.Text.Occurrence

/-!
# `Index.Terms` — sets of search terms

A search is a set of terms in lower case, none of them blank. A name or tag is hit when, in lower case, it has some
term as a part. The set is kept as its strictly ascending list, so equal sets are equal values and a set is
shown in one order.

* `mem_insert_iff` and `mem_ofList_iff` say what is in a set;
* `hits_iff` says what a set hits.
-/

namespace DeployBoard

open Text

/-- **A set of search terms**, ascending. -/
structure Terms where
  terms : List String
  ascending : terms.Pairwise (· < ·)

namespace Terms

/-- No term. -/
def empty : Terms := ⟨[], List.Pairwise.nil⟩

instance : EmptyCollection Terms := ⟨empty⟩
instance : Inhabited Terms := ⟨empty⟩
instance : Membership String Terms := ⟨fun set term => term ∈ set.terms⟩

theorem eq_of_terms_eq {a b : Terms} (h : a.terms = b.terms) : a = b := by
  cases a; cases b; cases h; rfl

instance : DecidableEq Terms := fun a b =>
  if h : a.terms = b.terms then isTrue (eq_of_terms_eq h) else isFalse (fun e => h (e ▸ rfl))

/-- There is no term. -/
def isEmpty (set : Terms) : Bool := set.terms.isEmpty

/-- Number of terms. -/
def size (set : Terms) : Nat := set.terms.length

/-- Puts a text at its place in an ascending list, once. -/
def insertAscending (term : String) : List String → List String
  | [] => [term]
  | t :: rest =>
    if term < t then term :: t :: rest
    else if term = t then t :: rest
    else t :: insertAscending term rest

@[simp] theorem mem_insertAscending {term t : String} {ts : List String} :
    t ∈ insertAscending term ts ↔ t = term ∨ t ∈ ts := by
  induction ts with
  | nil => simp [insertAscending]
  | cons hd rest ih =>
    unfold insertAscending
    split
    · simp
    · split
      · rename_i heq
        subst heq
        simp
      · simp [ih, or_left_comm]

theorem insertAscending_ascending (term : String) {ts : List String} (h : ts.Pairwise (· < ·)) :
    (insertAscending term ts).Pairwise (· < ·) := by
  induction ts with
  | nil => simp [insertAscending]
  | cons hd rest ih =>
    have hrest := List.pairwise_cons.mp h
    unfold insertAscending
    split
    · rename_i hlt
      refine List.pairwise_cons.mpr ⟨fun t ht => ?_, h⟩
      rcases List.mem_cons.mp ht with ht | ht
      · exact ht ▸ hlt
      · exact String.lt_trans hlt (hrest.1 t ht)
    · split
      · exact h
      · rename_i hnlt hne
        refine List.pairwise_cons.mpr ⟨fun t ht => ?_, ih hrest.2⟩
        rcases mem_insertAscending.mp ht with ht | ht
        · subst ht
          rcases Std.lt_trichotomy hd t with hl | he | hg
          · exact hl
          · exact absurd he.symm hne
          · exact absurd hg hnlt
        · exact hrest.1 t ht

/-- Adds a term in lower case; a blank one is ignored. -/
def insert (set : Terms) (term : String) : Terms :=
  if isBlankText term then set
  else ⟨insertAscending (lowercase term) set.terms, insertAscending_ascending _ set.ascending⟩

/-- The set of the terms that are not blank. -/
def ofList (terms : List String) : Terms := terms.foldl insert empty

/-- **`candidate` is hit**: in lower case it has some term as a part. -/
def hits (set : Terms) (candidate : String) : Bool :=
  let lowered := lowercase candidate
  set.terms.any (occursIn · lowered)

/-- The candidates that are hit, in their order. No term hits nothing. -/
def pick (set : Terms) (candidates : List String) : List String := candidates.filter set.hits

/-! ## What is in a set, and what it hits -/

@[simp] theorem not_mem_empty (term : String) : term ∉ empty := List.not_mem_nil

theorem mem_insert_iff {set : Terms} {term t : String} :
    t ∈ set.insert term ↔ (isBlankText term = false ∧ t = lowercase term) ∨ t ∈ set := by
  unfold insert
  by_cases hb : isBlankText term = true
  · simp [hb]
  · simp only [hb]
    simp only [Bool.false_eq_true, if_false, true_and]
    exact mem_insertAscending

theorem mem_foldl_insert {terms : List String} {set : Terms} {t : String} :
    t ∈ terms.foldl insert set ↔
      (∃ term ∈ terms, isBlankText term = false ∧ t = lowercase term) ∨ t ∈ set := by
  induction terms generalizing set with
  | nil => simp
  | cons hd rest ih =>
    rw [List.foldl_cons, ih, mem_insert_iff]
    simp only [List.mem_cons, exists_eq_or_imp]
    constructor
    · rintro (h | h | h)
      · exact Or.inl (Or.inr h)
      · exact Or.inl (Or.inl h)
      · exact Or.inr h
    · rintro ((h | h) | h)
      · exact Or.inr (Or.inl h)
      · exact Or.inl h
      · exact Or.inr (Or.inr h)

theorem mem_ofList_iff {terms : List String} {t : String} :
    t ∈ ofList terms ↔ ∃ term ∈ terms, isBlankText term = false ∧ t = lowercase term := by
  simp [ofList, mem_foldl_insert]

theorem hits_iff {set : Terms} {candidate : String} :
    set.hits candidate = true ↔ ∃ t ∈ set, t.toList <:+: (lowercase candidate).toList := by
  simp only [hits, List.any_eq_true, occursIn_iff]
  rfl

end Terms

end DeployBoard
