import DeployBoard.Proofs.Dashboard.History

/-!
# `Proofs.Dashboard.Stack` — commands on top of one another

A command on a repository remembers the record under it (`previous`) and leaves a record of its own
(`optimistic`). Commands are `Stacked` when each found the record that the one below it left. From such a
stack the top can be taken off, and what the record is can be told by replaying the stack from its base
(`Stacked.replay`).

Failures that come newest first take commands off the top only, so they always find the record that they
expect (`Piled.found_of_newest`).
-/

namespace DeployBoard
namespace Dashboard

/-- The commands of a list that are on one repository. -/
def onRepo (repo : String) (ps : List PendingCommand) : List PendingCommand := ps.filter (·.command.repo = repo)

theorem onRepo_append (repo : String) (ps qs : List PendingCommand) :
    onRepo repo (ps ++ qs) = onRepo repo ps ++ onRepo repo qs := List.filter_append ..

theorem onRepo_singleton_self (p : PendingCommand) : onRepo p.command.repo [p] = [p] := by
  simp [onRepo]

theorem onRepo_singleton_of_ne {repo : String} {p : PendingCommand} (h : p.command.repo ≠ repo) :
    onRepo repo [p] = [] := by
  simp [onRepo, h]

/-- The end of a command leaves the commands on other repositories. -/
theorem Numbered.onRepo_filter_of_ne {s : Dashboard} (hs : Numbered s) {p : PendingCommand}
    (hp : p ∈ s.pending) {repo : String} (h : p.command.repo ≠ repo) :
    onRepo repo (s.pending.filter (·.id ≠ p.id)) = onRepo repo s.pending := by
  unfold onRepo
  rw [List.filter_filter]
  refine List.filter_congr fun q hq => ?_
  by_cases hid : q.id = p.id
  · have hqp : q = p := hs.eq_of_id hq hp hid
    simp [hqp, h]
  · simp [hid]

/-- Without its last number, a list that ascends is all that was before. -/
theorem filter_concat_of_ascending {older : List PendingCommand} {p : PendingCommand}
    (h : (older ++ [p]).Pairwise fun q r => q.id < r.id) : (older ++ [p]).filter (·.id ≠ p.id) = older := by
  rw [List.pairwise_append] at h
  have hkeep : older.filter (·.id ≠ p.id) = older := by
    rw [List.filter_eq_self]
    intro q hq
    have hlt := h.2.2 q hq p List.mem_cons_self
    exact decide_eq_true (Nat.ne_of_lt hlt)
  rw [List.filter_append, hkeep]
  simp

/-- In a list that ascends, an entry that no other exceeds is the last one. -/
theorem eq_filter_concat_of_newest {ps : List PendingCommand} (hps : ps.Pairwise fun p q => p.id < q.id)
    {p : PendingCommand} (hp : p ∈ ps) (hnewest : ∀ q ∈ ps, q.id ≤ p.id) :
    ps = ps.filter (·.id ≠ p.id) ++ [p] := by
  obtain ⟨before, after, rfl⟩ := List.append_of_mem hp
  have hafter : ∀ q ∈ after, p.id < q.id := by
    rw [List.pairwise_append, List.pairwise_cons] at hps
    exact hps.2.1.1
  have hnil : after = [] := by
    rw [List.eq_nil_iff_forall_not_mem]
    intro q hq
    have hlt := hafter q hq
    have hle := hnewest q (List.mem_append_right _ (List.mem_cons_of_mem _ hq))
    omega
  subst hnil
  rw [filter_concat_of_ascending hps]

/-- The newest command on its repository is the last of those there. -/
theorem Numbered.onRepo_eq_concat {s : Dashboard} (hs : Numbered s) {p : PendingCommand} (hp : p ∈ s.pending)
    (hnewest : ∀ q ∈ s.pending, q.command.repo = p.command.repo → q.id ≤ p.id) :
    onRepo p.command.repo s.pending = onRepo p.command.repo (s.pending.filter (·.id ≠ p.id)) ++ [p] := by
  have hmem : p ∈ onRepo p.command.repo s.pending := List.mem_filter.mpr ⟨hp, by simp⟩
  have hle : ∀ q ∈ onRepo p.command.repo s.pending, q.id ≤ p.id := by
    intro q hq
    obtain ⟨hq, hrepo⟩ := List.mem_filter.mp hq
    exact hnewest q hq (by simpa using hrepo)
  have hcomm : (onRepo p.command.repo s.pending).filter (·.id ≠ p.id) =
      onRepo p.command.repo (s.pending.filter (·.id ≠ p.id)) := List.filter_comm ..
  rw [← hcomm]
  exact eq_filter_concat_of_newest (hs.ascending.filter _) hmem hle

/-! ## Stacks -/

/-- **Commands on top of one another**, the newest first: each found the record that the one below it left,
    the lowest one found `base`, and `record` is what the newest left. -/
def Stacked (base : Option Record) : List PendingCommand → Option Record → Prop
  | [], record => record = base
  | p :: older, record =>
    record = some p.optimistic ∧ p.optimistic = p.command.action.apply p.previous ∧
      Stacked base older (some p.previous)

/-- **The record is the base with every command of the stack replayed**, from the lowest to the newest. -/
theorem Stacked.replay {base : Option Record} {ps : List PendingCommand} {record : Option Record}
    (h : Stacked base ps record) : record = ps.foldr (fun p r => r.map p.command.action.apply) base := by
  induction ps generalizing record with
  | nil => exact h
  | cons p older ih =>
      obtain ⟨hrecord, hoptimistic, hunder⟩ := h
      rw [List.foldr_cons, ← ih hunder, hrecord, hoptimistic]
      rfl

/-- **A begin puts its command on top** of the stack of its own repository, and leaves those of the others. -/
theorem Stacked.begun {base : Option Record} {ps : List PendingCommand} {index : Index} {repo : String}
    (h : Stacked base ps.reverse (index.get? repo)) {p : PendingCommand}
    (hprevious : index.get? p.command.repo = some p.previous)
    (hoptimistic : p.optimistic = p.command.action.apply p.previous) :
    Stacked base (ps ++ onRepo repo [p]).reverse ((index.insert p.command.repo p.optimistic).get? repo) := by
  rw [Catalog.get?_insert]
  by_cases hrepo : p.command.repo = repo
  · subst hrepo
    rw [onRepo_singleton_self, List.reverse_concat, if_pos rfl]
    rw [hprevious] at h
    exact ⟨rfl, hoptimistic, h⟩
  · rw [onRepo_singleton_of_ne hrepo, List.append_nil, if_neg (Ne.symm hrepo)]
    exact h

/-! ## Newest first -/

/-- On every repository the commands under way are stacked. -/
def Piled (s : Dashboard) : Prop :=
  ∀ repo, ∃ base, Stacked base (onRepo repo s.pending).reverse (s.index.get? repo)

theorem piled_of_idle {s : Dashboard} (h : s.pending = []) : Piled s := by
  intro repo
  refine ⟨s.index.get? repo, ?_⟩
  rw [h]
  exact rfl

/-- The newest command on its repository finds the record that it left, and the rest of its stack lies below
    it. -/
theorem Piled.found_of_newest {s : Dashboard} (h : Piled s) (hs : Numbered s) {p : PendingCommand}
    (hp : p ∈ s.pending) (hnewest : ∀ q ∈ s.pending, q.command.repo = p.command.repo → q.id ≤ p.id) :
    s.index.get? p.command.repo = some p.optimistic ∧
      ∃ base, Stacked base (onRepo p.command.repo (s.pending.filter (·.id ≠ p.id))).reverse
        (some p.previous) := by
  obtain ⟨base, hstack⟩ := h p.command.repo
  rw [hs.onRepo_eq_concat hp hnewest, List.reverse_concat] at hstack
  obtain ⟨hfound, _, hunder⟩ := hstack
  exact ⟨hfound, base, hunder⟩

theorem Piled.begun {s t : Dashboard} (h : Piled s) {p : PendingCommand}
    (hprevious : s.index.get? p.command.repo = some p.previous)
    (hoptimistic : p.optimistic = p.command.action.apply p.previous)
    (hindex : t.index = s.index.insert p.command.repo p.optimistic) (hpending : t.pending = s.pending ++ [p]) :
    Piled t := by
  intro repo
  obtain ⟨base, hstack⟩ := h repo
  refine ⟨base, ?_⟩
  rw [hpending, onRepo_append, hindex]
  exact hstack.begun hprevious hoptimistic

theorem Piled.withdrawn {s t : Dashboard} (h : Piled s) (hs : Numbered s) {p : PendingCommand}
    (hp : p ∈ s.pending) (hnewest : ∀ q ∈ s.pending, q.command.repo = p.command.repo → q.id ≤ p.id)
    (hindex : t.index = s.index.insert p.command.repo p.previous)
    (hpending : t.pending = s.pending.filter (·.id ≠ p.id)) : Piled t := by
  intro repo
  rw [hpending, hindex, Catalog.get?_insert]
  by_cases hrepo : p.command.repo = repo
  · subst hrepo
    obtain ⟨_, base, hunder⟩ := h.found_of_newest hs hp hnewest
    rw [if_pos rfl]
    exact ⟨base, hunder⟩
  · rw [hs.onRepo_filter_of_ne hp hrepo, if_neg (Ne.symm hrepo)]
    exact h repo

end Dashboard
end DeployBoard
