import DeployBoard.Index.Terms

/-!
# `Query` — what is being searched for

A query is the text being typed and the terms chosen from the suggestions, in the order in which they were chosen. The
chosen terms are kept trimmed, in lower case, not blank and without repetition; what they and the text amount to
is a set of terms (`Query.terms`).
-/

namespace DeployBoard

open Text

/-- **A query**: free text and chosen terms. -/
structure Query where
  freeText : String := ""
  chosen : List String := []
  deriving DecidableEq, Repr, Inhabited

namespace Query

/-- The form in which a term is chosen: trimmed and in lower case. -/
def normalTerm (term : String) : String := lowercase (trim term)

/-- Replaces the text being typed. -/
def setFreeText (q : Query) (text : String) : Query := { q with freeText := text }

/-- **Chooses a term.** The answer is `false`, and nothing changes, for a blank term or one already chosen. -/
def addTerm (q : Query) (term : String) : Query × Bool :=
  let t := normalTerm term
  if t = "" ∨ t ∈ q.chosen then (q, false) else ({ q with chosen := q.chosen ++ [t] }, true)

/-- Gives up a term; the answer tells whether it was chosen. -/
def removeTerm (q : Query) (term : String) : Query × Bool :=
  let kept := q.chosen.filter (· ≠ normalTerm term)
  ({ q with chosen := kept }, kept.length ≠ q.chosen.length)

/-- Gives up the term chosen last, which is the answer. -/
def popTerm (q : Query) : Query × Option String :=
  ({ q with chosen := q.chosen.dropLast }, q.chosen.getLast?)

/-- The query for nothing. -/
def clear (_ : Query) : Query := {}

/-- **What the query amounts to**: its chosen terms, and its text unless that is blank. -/
def terms (q : Query) : Terms := (Terms.ofList q.chosen).insert q.freeText

/-- Nothing is searched for. -/
def isEmpty (q : Query) : Bool := q.terms.isEmpty

@[simp] theorem setFreeText_freeText (q : Query) (text : String) : (q.setFreeText text).freeText = text := rfl

@[simp] theorem setFreeText_chosen (q : Query) (text : String) : (q.setFreeText text).chosen = q.chosen := rfl

@[simp] theorem addTerm_freeText (q : Query) (term : String) : (q.addTerm term).1.freeText = q.freeText := by
  unfold addTerm
  simp only
  split <;> rfl

@[simp] theorem removeTerm_freeText (q : Query) (term : String) : (q.removeTerm term).1.freeText = q.freeText := rfl

@[simp] theorem popTerm_freeText (q : Query) : q.popTerm.1.freeText = q.freeText := rfl

/-- A term that is not new leaves the query as it is. -/
theorem addTerm_of_not_added {q : Query} {term : String} (h : ¬ (q.addTerm term).2 = true) :
    (q.addTerm term).1 = q := by
  unfold addTerm at h ⊢
  simp only at h ⊢
  split
  · rfl
  · rename_i hnew
    rw [if_neg hnew] at h
    exact absurd rfl h

/-- So does the removal of a term that was not chosen. -/
theorem removeTerm_of_not_removed {q : Query} {term : String} (h : ¬ (q.removeTerm term).2 = true) :
    (q.removeTerm term).1 = q := by
  have hlength : (q.chosen.filter (· ≠ normalTerm term)).length = q.chosen.length :=
    Decidable.byContradiction fun hne => h (decide_eq_true hne)
  have hsame : q.chosen.filter (· ≠ normalTerm term) = q.chosen := List.filter_sublist.eq_of_length hlength
  show { q with chosen := q.chosen.filter (· ≠ normalTerm term) } = q
  rw [hsame]

/-- And so does the removal of the last term where none is chosen. -/
theorem popTerm_of_none {q : Query} (h : ¬ q.popTerm.2.isSome = true) : q.popTerm.1 = q := by
  have hnone : q.chosen = [] := by
    rw [popTerm, List.getLast?_isSome] at h
    exact Decidable.not_not.mp h
  show { q with chosen := q.chosen.dropLast } = q
  rw [hnone, List.dropLast_nil, ← hnone]

theorem mem_terms_iff {q : Query} {t : String} :
    t ∈ q.terms ↔ (isBlankText q.freeText = false ∧ t = lowercase q.freeText) ∨
      ∃ term ∈ q.chosen, isBlankText term = false ∧ t = lowercase term := by
  rw [terms, Terms.mem_insert_iff, Terms.mem_ofList_iff]

end Query

end DeployBoard
