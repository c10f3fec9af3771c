import DeployBoard.Proofs.Index.Filter
import Mathlib.Data.List.Induction

/-!
# `Proofs.Index.Vocabulary` — every text once, at its first place

The vocabulary of an index goes through its names and tags and takes each text that has not come before. `eraseDups_concat`
says what one text more does to what has been taken, and by it the texts taken come in the order of their first places
(`listsOnce_eraseDups`). The names are all different and come first, so all of them are taken before any tag
(`names_prefix_vocabulary`).
-/

namespace DeployBoard

/-- **`once` lists the texts of `ts`**: each of them once, in the order in which they first come up in `ts`. -/
structure ListsOnce (ts once : List String) : Prop where
  nodup : once.Nodup
  same : ∀ t, t ∈ once ↔ t ∈ ts
  order : ∀ a ∈ once, ∀ b ∈ once, once.idxOf a < once.idxOf b ↔ ts.idxOf a < ts.idxOf b

variable {ts once : List String} {t : String}

/-- **One text more** is taken if it has not come before. -/
theorem eraseDups_concat (ts : List String) (t : String) :
    (ts ++ [t]).eraseDups = if t ∈ ts then ts.eraseDups else ts.eraseDups ++ [t] := by
  rw [List.eraseDups_append, List.cons_removeAll]
  have hsingle : [t].eraseDups = [t] := rfl
  by_cases hknown : t ∈ ts
  · simp [hknown]
  · simp [hknown, hsingle]

/-- **What is taken comes in the order of first places.** -/
theorem pairwise_idxOf_eraseDups (ts : List String) :
    ts.eraseDups.Pairwise fun a b => ts.idxOf a < ts.idxOf b := by
  induction ts using List.reverseRecOn with
  | nil => exact .nil
  | append_singleton ts t ih =>
      -- What has been taken has its first place in `ts`, where one text more does not change it.
      have hkept : ∀ a ∈ ts.eraseDups, (ts ++ [t]).idxOf a = ts.idxOf a := by
        intro a ha
        exact List.idxOf_append_of_mem (List.mem_eraseDups.mp ha)
      have hold : ts.eraseDups.Pairwise fun a b => (ts ++ [t]).idxOf a < (ts ++ [t]).idxOf b := by
        refine ih.imp_of_mem ?_
        intro a b ha hb hlt
        rwa [hkept a ha, hkept b hb]
      rw [eraseDups_concat]
      by_cases hknown : t ∈ ts
      · rw [if_pos hknown]
        exact hold
      · rw [if_neg hknown]
        refine List.pairwise_append.mpr ⟨hold, List.pairwise_singleton _ t, ?_⟩
        intro a ha b hb
        obtain rfl := List.mem_singleton.mp hb
        rw [hkept a ha, List.idxOf_append_of_notMem hknown]
        exact Nat.lt_add_right _ (List.idxOf_lt_length_of_mem (List.mem_eraseDups.mp ha))

/-- **A list in ascending order of a number** has two of its members in the order of their numbers. -/
theorem idxOf_lt_iff {number : String → Nat} (h : once.Pairwise fun a b => number a < number b) {a b : String}
    (ha : a ∈ once) (hb : b ∈ once) : once.idxOf a < once.idxOf b ↔ number a < number b := by
  have hascending : ∀ {c d : String}, c ∈ once → d ∈ once → once.idxOf c < once.idxOf d → number c < number d := by
    intro c d hc hd hlt
    have hc' := List.idxOf_lt_length_of_mem hc
    have hd' := List.idxOf_lt_length_of_mem hd
    have hpair := List.pairwise_iff_getElem.mp h _ _ hc' hd' hlt
    rwa [List.getElem_idxOf hc', List.getElem_idxOf hd'] at hpair
  constructor
  · exact hascending ha hb
  · intro hlt
    rcases Nat.lt_trichotomy (once.idxOf a) (once.idxOf b) with hless | hsame | hmore
    · exact hless
    · obtain rfl : a = b := (List.idxOf_inj ha).mp hsame
      exact absurd hlt (Nat.lt_irrefl _)
    · exact absurd (hascending hb ha hmore) (Nat.lt_asymm hlt)

/-- **What is taken is each text once**, at its first place. -/
theorem listsOnce_eraseDups (ts : List String) : ListsOnce ts ts.eraseDups where
  nodup := by
    refine (pairwise_idxOf_eraseDups ts).imp ?_
    intro a b hlt heq
    exact absurd (heq ▸ hlt) (Nat.lt_irrefl _)
  same := fun t => List.mem_eraseDups
  order := fun a ha b hb => idxOf_lt_iff (pairwise_idxOf_eraseDups ts) ha hb

/-- Of texts that are all different, all are taken. -/
theorem eraseDups_of_nodup (h : ts.Nodup) : ts.eraseDups = ts := by
  induction ts using List.reverseRecOn with
  | nil => rfl
  | append_singleton ts t ih =>
      obtain ⟨hts, _, hnew⟩ := List.nodup_append.mp h
      have hknown : t ∉ ts := fun ht => hnew t ht t (List.mem_singleton.mpr rfl) rfl
      rw [eraseDups_concat, if_neg hknown, ih hts]

namespace Catalog

theorem nodup_names {α : Type} (table : Catalog α) : table.names.Nodup :=
  table.names_ascending.imp String.ne_of_lt

/-- **The vocabulary begins with all the names.** -/
theorem names_prefix_vocabulary (index : Index) : index.names <+: index.vocabulary := by
  unfold vocabulary searchable
  rw [List.eraseDups_append, eraseDups_of_nodup index.nodup_names]
  exact List.prefix_append _ _

end Catalog

end DeployBoard
