import DeployBoard.Proofs.Dashboard.History
import DeployBoard.Proofs.Index.Terms
import DeployBoard.Proofs.Text.Neighbours

/-!
# `Proofs.Query` — what a query amounts to

A query changes by **edits**: the text being typed is replaced, terms are chosen and given up, and all is cleared. The
terms chosen are **tidy**: in lower case, not blank, and each chosen once. Every edit keeps them so (`Reachable.tidy`),
and each is its own normal form (`Reachable.normalTerm_eq`). What the query amounts to takes lower case of them once
more, which changes nothing, so its set of terms is the chosen terms and the text being typed (`Tidy.mem_terms_iff`).
`query_in_normal_form` puts this together. The query of a dashboard is one that edits lead to (`Reachable.query`).

A set of terms is told by its members, so neither the order in which terms are chosen nor how often they are matters to
what the query amounts to (`terms_addTerms`).
-/

namespace DeployBoard

open Text

namespace Query

/-- **The chosen terms are in lower case, not blank, and each is chosen once.** -/
structure Tidy (q : Query) : Prop where
  lower : ∀ t ∈ q.chosen, lowercase t = t
  filled : ∀ t ∈ q.chosen, isBlankText t = false
  nodup : q.chosen.Nodup

/-- The query after terms are chosen one after the other. -/
def addTerms (q : Query) (terms : List String) : Query := terms.foldl (fun q term => (q.addTerm term).1) q

/-- **What can be done to a query.** -/
inductive Edit where
  | setFreeText (text : String)
  | addTerm (term : String)
  | removeTerm (term : String)
  | popTerm
  | clear

/-- The query after one edit. -/
def edit (q : Query) : Edit → Query
  | .setFreeText text => q.setFreeText text
  | .addTerm term => (q.addTerm term).1
  | .removeTerm term => (q.removeTerm term).1
  | .popTerm => q.popTerm.1
  | .clear => q.clear

/-- The query after edits, in their order. -/
def run (q : Query) (edits : List Edit) : Query := edits.foldl edit q

/-- **A query that edits lead to** from the query for nothing. -/
def Reachable (q : Query) : Prop := ∃ edits, run {} edits = q

variable {q : Query} {t term other : String}

/-! ## Tidy queries -/

theorem lowercase_normalTerm (term : String) : lowercase (normalTerm term) = normalTerm term :=
  lowercase_lowercase (trim term)

/-- **The normal form of a term is its own normal form.** -/
theorem normalTerm_normalTerm (term : String) : normalTerm (normalTerm term) = normalTerm term := by
  have htrim : trim (normalTerm term) = normalTerm term := trim_lowercase_trim term
  rw [normalTerm, htrim, lowercase_normalTerm]

theorem isBlankText_normalTerm (term : String) : isBlankText (normalTerm term) = isBlankText term := by
  unfold normalTerm
  rw [isBlankText_lowercase, isBlankText_trim]

/-- A term comes to nothing just if it is blank. -/
theorem normalTerm_eq_empty_iff : normalTerm term = "" ↔ isBlankText term = true := by
  constructor
  · intro hempty
    rw [← isBlankText_normalTerm, hempty]
    rfl
  · intro hblank
    unfold normalTerm
    rw [trim_eq_empty_iff.mpr hblank]
    rfl

/-- **What is chosen after a choice**: what was, and the term in its normal form unless it is blank. -/
theorem mem_addTerm_iff :
    t ∈ (q.addTerm term).1.chosen ↔ (isBlankText term = false ∧ t = normalTerm term) ∨ t ∈ q.chosen := by
  unfold addTerm
  simp only
  by_cases hblank : isBlankText term = true
  · rw [if_pos (.inl (normalTerm_eq_empty_iff.mpr hblank))]
    simp [hblank]
  · have hfilled : normalTerm term ≠ "" := fun h => hblank (normalTerm_eq_empty_iff.mp h)
    rw [Bool.not_eq_true] at hblank
    by_cases hknown : normalTerm term ∈ q.chosen
    · rw [if_pos (.inr hknown)]
      constructor
      · exact .inr
      · rintro (⟨_, rfl⟩ | h)
        · exact hknown
        · exact h
    · rw [if_neg (not_or_intro hfilled hknown)]
      simp [hblank, or_comm]

/-- **A term is new** just if it is not blank and its normal form is not chosen yet. -/
theorem addTerm_added_iff : (q.addTerm term).2 = true ↔ isBlankText term = false ∧ normalTerm term ∉ q.chosen := by
  unfold addTerm
  simp only
  rw [← Bool.not_eq_true, ← normalTerm_eq_empty_iff]
  split
  · rename_i hold
    constructor
    · intro h
      cases h
    · rintro ⟨hfilled, hnew⟩
      exact absurd hold (not_or_intro hfilled hnew)
  · rename_i hnew
    exact ⟨fun _ => not_or.mp hnew, fun _ => rfl⟩

/-- A new term comes last among the chosen ones. -/
theorem addTerm_chosen (q : Query) (term : String) :
    (q.addTerm term).1.chosen = if (q.addTerm term).2 then q.chosen ++ [normalTerm term] else q.chosen := by
  unfold addTerm
  simp only
  split <;> rfl

theorem tidy_start : Tidy {} := by
  refine ⟨?_, ?_, List.nodup_nil⟩
  · exact fun _ h => absurd h List.not_mem_nil
  · exact fun _ h => absurd h List.not_mem_nil

/-- Fewer terms are as tidy. -/
theorem Tidy.sublist (h : q.Tidy) {chosen : List String} (hsub : chosen.Sublist q.chosen) :
    Tidy { q with chosen } :=
  ⟨fun t ht => h.lower t (hsub.subset ht), fun t ht => h.filled t (hsub.subset ht), h.nodup.sublist hsub⟩

theorem Tidy.addTerm (h : q.Tidy) (term : String) : (q.addTerm term).1.Tidy := by
  refine ⟨?_, ?_, ?_⟩
  · intro t ht
    rcases mem_addTerm_iff.mp ht with ⟨_, rfl⟩ | hold
    · exact lowercase_normalTerm term
    · exact h.lower t hold
  · intro t ht
    rcases mem_addTerm_iff.mp ht with ⟨hfilled, rfl⟩ | hold
    · exact (isBlankText_normalTerm term).trans hfilled
    · exact h.filled t hold
  · unfold Query.addTerm
    simp only
    split
    · exact h.nodup
    · -- A term that was chosen already is not added.
      rename_i hnew
      refine List.nodup_append.mpr ⟨h.nodup, List.nodup_singleton _, ?_⟩
      intro t ht u hu heq
      rw [List.mem_singleton.mp hu] at heq
      exact hnew (.inr (heq ▸ ht))

/-- **A term that was new is given up again**, under any spelling with the same normal form, and the query is as it was
    before. -/
theorem removeTerm_addTerm (hadded : (q.addTerm term).2 = true) (hsame : normalTerm other = normalTerm term) :
    (q.addTerm term).1.removeTerm other = (q, true) := by
  have hnew := (addTerm_added_iff.mp hadded).2
  have hadd : (q.addTerm term).1 = { q with chosen := q.chosen ++ [normalTerm term] } := by
    have hchosen := addTerm_chosen q term
    rw [if_pos hadded] at hchosen
    rw [← hchosen, ← addTerm_freeText q term]
  have hkept : (q.chosen ++ [normalTerm term]).filter (· ≠ normalTerm term) = q.chosen := by
    rw [List.filter_append, List.filter_singleton, List.filter_eq_self.mpr]
    · simp
    · intro t ht
      exact decide_eq_true fun heq => hnew (heq ▸ ht)
  unfold removeTerm
  simp only [hadd, hsame, hkept]
  simp

/-! ## Edits -/

theorem run_append (q : Query) (edits more : List Edit) : q.run (edits ++ more) = (q.run edits).run more :=
  List.foldl_append

theorem Reachable.edit (h : Reachable q) (e : Edit) : Reachable (q.edit e) := by
  obtain ⟨edits, rfl⟩ := h
  exact ⟨edits ++ [e], run_append {} edits [e]⟩

/-- **What an edit keeps, edits keep.** -/
theorem run_invariant {P : Query → Prop} (hedit : ∀ q e, P q → P (q.edit e)) (h : P q) (edits : List Edit) :
    P (q.run edits) := by
  induction edits generalizing q with
  | nil => exact h
  | cons e edits ih => exact ih (hedit q e h)

theorem Tidy.edit (h : q.Tidy) (e : Edit) : (q.edit e).Tidy := by
  cases e with
  | setFreeText text => exact ⟨h.lower, h.filled, h.nodup⟩
  | addTerm term => exact h.addTerm term
  | removeTerm term => exact h.sublist List.filter_sublist
  | popTerm => exact h.sublist (List.dropLast_sublist _)
  | clear => exact tidy_start

/-- **The query is tidy** after all edits. -/
theorem Reachable.tidy (h : Reachable q) : q.Tidy := by
  obtain ⟨edits, rfl⟩ := h
  exact run_invariant (fun _ e h => h.edit e) tidy_start edits

/-- What an edit finds chosen, or chooses in its normal form, is all that is chosen after it. -/
theorem mem_edit_chosen (e : Edit) (ht : t ∈ (q.edit e).chosen) : t ∈ q.chosen ∨ ∃ term, t = normalTerm term := by
  cases e with
  | setFreeText text => exact .inl ht
  | addTerm term =>
      have hedit : q.edit (.addTerm term) = (q.addTerm term).1 := rfl
      rw [hedit] at ht
      rcases mem_addTerm_iff.mp ht with ⟨_, hterm⟩ | hold
      · exact .inr ⟨term, hterm⟩
      · exact .inl hold
  | removeTerm term => exact .inl (List.filter_sublist.subset ht)
  | popTerm => exact .inl ((List.dropLast_sublist _).subset ht)
  | clear => exact absurd ht List.not_mem_nil

/-- **Every chosen term is its own normal form.** -/
theorem Reachable.normalTerm_eq (h : Reachable q) : ∀ t ∈ q.chosen, normalTerm t = t := by
  obtain ⟨edits, rfl⟩ := h
  refine run_invariant (P := fun q => ∀ t ∈ q.chosen, normalTerm t = t) ?_ ?_ edits
  · intro q e ih t ht
    rcases mem_edit_chosen e ht with hold | ⟨term, rfl⟩
    · exact ih t hold
    · exact normalTerm_normalTerm term
  · exact fun _ ht => absurd ht List.not_mem_nil

/-! ## What a query amounts to -/

/-- **The terms of a tidy query** are its chosen terms and, unless it is blank, its text in lower case. -/
theorem Tidy.mem_terms_iff (h : q.Tidy) :
    t ∈ q.terms ↔ (isBlankText q.freeText = false ∧ t = lowercase q.freeText) ∨ t ∈ q.chosen := by
  rw [Query.mem_terms_iff]
  refine or_congr_right ?_
  constructor
  · rintro ⟨term, hterm, _, rfl⟩
    rw [h.lower term hterm]
    exact hterm
  · intro ht
    exact ⟨t, ht, h.filled t ht, (h.lower t ht).symm⟩

/-- **Nothing is searched for** when no term is chosen and the text is blank. -/
theorem Tidy.isEmpty_iff (h : q.Tidy) : q.isEmpty = true ↔ q.chosen = [] ∧ isBlankText q.freeText = true := by
  unfold isEmpty
  rw [← not_iff_not, Bool.not_eq_true, not_and_or, Bool.not_eq_true, Terms.isEmpty_eq_false_iff]
  constructor
  · rintro ⟨t, ht⟩
    rcases h.mem_terms_iff.mp ht with ⟨hfilled, _⟩ | hchosen
    · exact .inr hfilled
    · exact .inl (List.ne_nil_of_mem hchosen)
  · rintro (hchosen | hfilled)
    · obtain ⟨t, ht⟩ := List.exists_mem_of_ne_nil _ hchosen
      exact ⟨t, h.mem_terms_iff.mpr (.inr ht)⟩
    · exact ⟨_, h.mem_terms_iff.mpr (.inl ⟨hfilled, rfl⟩)⟩

/-- **A query is in normal form**, whatever edits led to it: its chosen terms are different, not blank, and each its own
    normal form. A term is new exactly when it is not blank and its normal form is not chosen; and then giving it up, under
    any spelling with that normal form, brings the query back. What the query amounts to are the chosen terms, and the
    text in lower case unless it is blank; and it is a query for nothing exactly when there is neither. -/
theorem query_in_normal_form (h : Reachable q) :
    (q.chosen.Nodup ∧ ∀ t ∈ q.chosen, isBlankText t = false ∧ normalTerm t = t) ∧
      (∀ term, (q.addTerm term).2 = true ↔ isBlankText term = false ∧ normalTerm term ∉ q.chosen) ∧
      (∀ term other, (q.addTerm term).2 = true → normalTerm other = normalTerm term →
        (q.addTerm term).1.removeTerm other = (q, true)) ∧
      (∀ t, t ∈ q.terms ↔ t ∈ q.chosen ∨ isBlankText q.freeText = false ∧ t = lowercase q.freeText) ∧
      (q.isEmpty = true ↔ q.chosen = [] ∧ isBlankText q.freeText = true) := by
  have htidy := h.tidy
  refine ⟨⟨htidy.nodup, fun t ht => ⟨htidy.filled t ht, h.normalTerm_eq t ht⟩⟩, ?_, ?_, ?_, htidy.isEmpty_iff⟩
  · exact fun _ => addTerm_added_iff
  · exact fun _ _ hadded hsame => removeTerm_addTerm hadded hsame
  · intro t
    rw [htidy.mem_terms_iff]
    exact or_comm

/-- With "Front" typed and "v1" chosen, " ΔΣ " is new, and "δς" gives it up again. -/
theorem greek_term_given_up :
    ((run {} [.setFreeText "Front", .addTerm " V1"]).addTerm " ΔΣ ").2 = true ∧
      ((run {} [.setFreeText "Front", .addTerm " V1"]).addTerm " ΔΣ ").1.removeTerm "δς" =
        (run {} [.setFreeText "Front", .addTerm " V1"], true) ∧
      "front" ∈ (run {} [.setFreeText "Front", .addTerm " V1"]).terms ∧
      (run {} [.setFreeText "Front", .addTerm " V1"]).isEmpty = false := by
  obtain ⟨_, hadded, hgiven, hterms, hempty⟩ :=
    query_in_normal_form (q := run {} [.setFreeText "Front", .addTerm " V1"]) ⟨_, rfl⟩
  have hnew : ((run {} [.setFreeText "Front", .addTerm " V1"]).addTerm " ΔΣ ").2 = true :=
    (hadded " ΔΣ ").mpr (by decide +kernel)
  refine ⟨hnew, hgiven " ΔΣ " "δς" hnew (by decide +kernel), (hterms "front").mpr (.inr (by decide +kernel)), ?_⟩
  rw [← Bool.not_eq_true, hempty]
  decide +kernel

theorem addTerms_nil (q : Query) : q.addTerms [] = q := rfl

theorem addTerms_cons (q : Query) (term : String) (terms : List String) :
    q.addTerms (term :: terms) = (q.addTerm term).1.addTerms terms := by
  unfold addTerms
  rw [List.foldl_cons]

/-- To choose terms is to edit the query by each of them. -/
theorem addTerms_eq_run (q : Query) (terms : List String) : q.addTerms terms = q.run (terms.map .addTerm) := by
  unfold addTerms run
  rw [List.foldl_map]
  rfl

theorem tidy_addTerms (h : q.Tidy) (terms : List String) : (q.addTerms terms).Tidy := by
  rw [addTerms_eq_run]
  exact run_invariant (fun _ e h => h.edit e) h _

theorem addTerms_freeText (q : Query) (terms : List String) : (q.addTerms terms).freeText = q.freeText := by
  induction terms generalizing q with
  | nil => rfl
  | cons term terms ih => rw [addTerms_cons, ih, addTerm_freeText]

theorem mem_addTerms_iff {terms : List String} :
    t ∈ (q.addTerms terms).chosen ↔
      (∃ term ∈ terms, isBlankText term = false ∧ t = normalTerm term) ∨ t ∈ q.chosen := by
  induction terms generalizing q with
  | nil => simp [addTerms_nil]
  | cons term terms ih =>
      rw [addTerms_cons, ih, mem_addTerm_iff, List.exists_mem_cons_iff, or_assoc, or_left_comm]

/-- **Choosing terms comes to the set of their normal forms**, whatever their order and repetition. -/
theorem terms_addTerms (terms : List String) : (addTerms {} terms).terms = Terms.ofList (terms.map trim) := by
  refine Terms.eq_of_mem_iff fun t => ?_
  -- Nothing is typed, so the chosen terms are all there is.
  have hblank : isBlankText (addTerms {} terms).freeText = true := by
    rw [addTerms_freeText]
    rfl
  rw [(tidy_addTerms tidy_start terms).mem_terms_iff, mem_addTerms_iff, Terms.mem_ofList_iff, hblank]
  simp [normalTerm]

end Query

namespace Dashboard

/-- An operation that makes a query edits the one that there is. -/
theorem exists_edit_of_queryOf? {s : Dashboard} {op : Operation} {q : Query} (h : op.queryOf? s = some q) :
    ∃ e, s.query.edit e = q := by
  cases op with
  | setFreeText text => exact ⟨.setFreeText text, Option.some.inj h⟩
  | addTerm term => exact ⟨.addTerm term, Option.some.inj h⟩
  | removeTerm term => exact ⟨.removeTerm term, Option.some.inj h⟩
  | popTerm => exact ⟨.popTerm, Option.some.inj h⟩
  | clearQuery => exact ⟨.clear, Option.some.inj h⟩
  | poll | moveCursor | cycleTag | selectTag | setTagInput | begin | finish => cases h

/-- **The query of a dashboard is one that edits lead to**, after every run of operations. -/
theorem Reachable.query {s : Dashboard} (h : Reachable s) : Query.Reachable s.query := by
  obtain ⟨ops, rfl⟩ := h
  refine run_invariant (P := fun s => Query.Reachable s.query) ?_ ⟨[], rfl⟩ ops
  intro s op ih
  rw [step_query]
  cases hquery : op.queryOf? s with
  | none => exact ih
  | some q =>
      obtain ⟨e, rfl⟩ := exists_edit_of_queryOf? hquery
      exact ih.edit e

theorem Reachable.tidy {s : Dashboard} (h : Reachable s) : s.query.Tidy := h.query.tidy

/-- The query after a choice. -/
theorem step_addTerm_query (s : Dashboard) (term : String) :
    (s.step (.addTerm term)).query = (s.query.addTerm term).1 := by
  have hquery : (Operation.addTerm term).queryOf? s = some (s.query.addTerm term).1 := rfl
  rw [step_query, hquery, Option.getD_some]

/-- Terms chosen one after the other change the query, and leave the index alone. -/
theorem run_addTerms (s : Dashboard) (terms : List String) :
    (s.run (terms.map .addTerm)).query = s.query.addTerms terms ∧ (s.run (terms.map .addTerm)).index = s.index := by
  induction terms generalizing s with
  | nil => exact ⟨rfl, rfl⟩
  | cons term terms ih =>
      have hrun : s.run ((term :: terms).map .addTerm) = (s.step (.addTerm term)).run (terms.map .addTerm) := by
        unfold run
        rw [List.map_cons, List.foldl_cons]
      obtain ⟨hquery, hindex⟩ := ih (s.step (.addTerm term))
      refine ⟨?_, ?_⟩
      · rw [hrun, hquery, step_addTerm_query, Query.addTerms_cons]
      · rw [hrun, hindex]
        exact (step_of_quiet rfl).1

end Dashboard
end DeployBoard
