import DeployBoard.Proofs.Dashboard.Step
import Mathlib.Data.List.Nodup
import Mathlib.Data.List.Perm.Basic

/-!
# `Proofs.Dashboard.History` — what happens to the index and the commands under way

Of all that operations do, only successful polls and the begin and end of commands touch the index and the
commands under way. Each such **happening** is recorded with the command as it was entered at its begin, and a
failure also with the record that it found. `Transition` says once what a step can do, guards included, and
every step is one (`transition_step`); the `history` of a run collects what happened. What is said about
rollbacks is proved from transitions, never from the operations themselves.
-/

namespace DeployBoard
namespace Dashboard

/-- **What an operation brings about** for the index and the commands under way. -/
inductive Happening where
  /-- A poll brought an index. -/
  | polled (index : Index)
  /-- A command was begun. -/
  | begun (p : PendingCommand)
  /-- A command ended without an error. -/
  | accepted (p : PendingCommand)
  /-- A command ended with an error; `found` was its repository's record then. -/
  | failed (p : PendingCommand) (found : Option Record)
  deriving DecidableEq

/-- What an operation brings about, if it is one of these. -/
def happening? (s : Dashboard) : Operation → Option Happening
  | .poll _ (.updated index) => some (.polled index)
  | .begin c =>
    (s.index.get? c.repo).map fun previous => .begun ⟨s.nextId, c, previous, c.action.apply previous⟩
  | .finish id error =>
    (s.pending.find? (·.id = id)).map fun p =>
      match error with
      | none => .accepted p
      | some _ => .failed p (s.index.get? p.command.repo)
  | _ => none

/-- **The history of a run**, oldest first. -/
def history : Dashboard → List Operation → List Happening
  | _, [] => []
  | s, op :: ops => (s.happening? op).toList ++ (s.step op).history ops

/-- **What a step can do** to the index and the commands under way, with the happening that goes with it. A
    failure takes its effect back exactly when it finds the record that the command left. -/
inductive Transition (s t : Dashboard) : Option Happening → Prop where
  | quiet (hindex : t.index = s.index) (hpending : t.pending = s.pending) (hnext : t.nextId = s.nextId) :
      Transition s t none
  | polled (index : Index) (hindex : t.index = index) (hpending : t.pending = s.pending)
      (hnext : t.nextId = s.nextId) : Transition s t (some (.polled index))
  | begun (p : PendingCommand) (hid : p.id = s.nextId)
      (hprevious : s.index.get? p.command.repo = some p.previous)
      (hoptimistic : p.optimistic = p.command.action.apply p.previous)
      (hindex : t.index = s.index.insert p.command.repo p.optimistic) (hpending : t.pending = s.pending ++ [p])
      (hnext : t.nextId = s.nextId + 1) : Transition s t (some (.begun p))
  | accepted (p : PendingCommand) (hp : p ∈ s.pending) (hindex : t.index = s.index)
      (hpending : t.pending = s.pending.filter (·.id ≠ p.id)) (hnext : t.nextId = s.nextId) :
      Transition s t (some (.accepted p))
  | withdrawn (p : PendingCommand) (hp : p ∈ s.pending)
      (hfound : s.index.get? p.command.repo = some p.optimistic)
      (hindex : t.index = s.index.insert p.command.repo p.previous)
      (hpending : t.pending = s.pending.filter (·.id ≠ p.id)) (hnext : t.nextId = s.nextId) :
      Transition s t (some (.failed p (some p.optimistic)))
  | overtaken (p : PendingCommand) (found : Option Record) (hp : p ∈ s.pending)
      (hfound : s.index.get? p.command.repo = found) (hother : found ≠ some p.optimistic)
      (hindex : t.index = s.index) (hpending : t.pending = s.pending.filter (·.id ≠ p.id))
      (hnext : t.nextId = s.nextId) : Transition s t (some (.failed p found))

/-! ## Every step is a transition -/

/-- The entry of a command under way, found by its number. -/
theorem mem_of_find_id {s : Dashboard} {id : Nat} {p : PendingCommand}
    (h : s.pending.find? (·.id = id) = some p) : p ∈ s.pending ∧ p.id = id :=
  ⟨List.mem_of_find?_eq_some h, by simpa using List.find?_some h⟩

/-- Operations about the query or about a picker bring nothing about. -/
theorem happening?_of_queryOf? {s : Dashboard} {op : Operation} {query : Query} (h : op.queryOf? s = some query) :
    s.happening? op = none := by
  cases op with
  | setFreeText | addTerm | removeTerm | popTerm | clearQuery => rfl
  | poll | moveCursor | cycleTag | selectTag | setTagInput | begin | finish => cases h

theorem happening?_of_pickerOf? {s : Dashboard} {op : Operation} {repo : String} (h : op.pickerOf? s = some repo) :
    s.happening? op = none := by
  cases op with
  | cycleTag | selectTag | setTagInput => rfl
  | setFreeText | addTerm | removeTerm | popTerm | clearQuery | poll | moveCursor | begin | finish => cases h

theorem Operation.Idles.happening?_eq {s : Dashboard} {op : Operation} (h : op.Idles s) : s.happening? op = none := by
  cases op with
  | setFreeText | addTerm | removeTerm | popTerm | clearQuery | moveCursor | cycleTag | selectTag | setTagInput => rfl
  | poll now event => cases h
  | begin command =>
      have hunknown : s.index.get? command.repo = none := h
      simp [happening?, hunknown]
  | finish id error =>
      have hunknown : s.pending.find? (·.id = id) = none := h
      simp [happening?, hunknown]

theorem Stepped.transition {s t : Dashboard} {op : Operation} (h : Stepped s op t) :
    Transition s t (s.happening? op) := by
  cases h with
  | idle _ hidle =>
      rw [hidle.happening?_eq]
      exact .quiet rfl rfl rfl
  | requeried _ query hquery =>
      rw [happening?_of_queryOf? hquery]
      exact .quiet (refilter_index _) (refilter_pending _) (refilter_nextId _)
  | polled now index => exact .polled index (refilter_index _) (refilter_pending _) (refilter_nextId _)
  | pollFailed => exact .quiet rfl rfl rfl
  | moved => exact .quiet rfl rfl rfl
  | unmoved => exact .quiet rfl rfl rfl
  | repicked _ repo f hrepo =>
      rw [happening?_of_pickerOf? hrepo]
      exact .quiet rfl rfl rfl
  | begun command previous hprevious =>
      simp only [happening?, beginCommand, hprevious, Option.map_some]
      exact .begun ⟨s.nextId, command, previous, command.action.apply previous⟩ rfl hprevious rfl
        (refilter_index _) (refilter_pending _) (by rw [refilter_nextId])
  | accepted id p notice hfind =>
      obtain ⟨hp, rfl⟩ := mem_of_find_id hfind
      simp only [happening?, hfind, Option.map_some]
      exact .accepted p hp rfl rfl rfl
  | withdrawn id p e message hfind hfound =>
      obtain ⟨hp, rfl⟩ := mem_of_find_id hfind
      simp only [happening?, hfind, Option.map_some, hfound]
      exact .withdrawn p hp hfound (refilter_index _) (refilter_pending _) (by rw [refilter_nextId])
  | overtaken id p e message hfind hother =>
      obtain ⟨hp, rfl⟩ := mem_of_find_id hfind
      simp only [happening?, hfind, Option.map_some]
      exact .overtaken p _ hp rfl hother rfl rfl rfl

/-- **Every step is a transition.** -/
theorem transition_step (s : Dashboard) (op : Operation) : Transition s (s.step op) (s.happening? op) :=
  (stepped_step s op).transition

/-- Where nothing is brought about, the index and the commands under way stay. -/
theorem step_of_quiet {s : Dashboard} {op : Operation} (h : s.happening? op = none) :
    (s.step op).index = s.index ∧ (s.step op).pending = s.pending := by
  have htransition := transition_step s op
  rw [h] at htransition
  cases htransition with
  | quiet hindex hpending _ => exact ⟨hindex, hpending⟩

/-! ## Histories -/

theorem Meets.happening_mem {s t : Dashboard} {op : Operation} {ops : List Operation} (h : Meets s ops t op)
    {what : Happening} (hwhat : t.happening? op = some what) : what ∈ s.history ops := by
  induction h with
  | here s op ops => exact List.mem_append_left _ (Option.mem_toList.mpr hwhat)
  | later first _ ih => exact List.mem_append_right _ (ih hwhat)

/-- **Induction along a run**: what holds at first and is kept by every operation, in the state that it meets,
    holds at the end, with the history so far. -/
theorem history_induction {P : List Happening → Dashboard → Prop} {s : Dashboard} {ops : List Operation}
    (hstep : ∀ hist t op, Meets s ops t op → P hist t → P (hist ++ (t.happening? op).toList) (t.step op))
    {hist : List Happening} (h : P hist s) : P (hist ++ s.history ops) (s.run ops) := by
  induction ops generalizing s hist with
  | nil => exact (List.append_nil hist).symm ▸ h
  | cons op ops ih =>
      have hfirst := hstep hist s op (.here s op ops) h
      have hrest := ih (fun hist t op' hmeets => hstep hist t op' (.later op hmeets)) hfirst
      rw [List.append_assoc] at hrest
      exact hrest

/-- Only a successful poll brings an index. -/
theorem bringsIndex_of_polled {s : Dashboard} {op : Operation} {index : Index}
    (h : s.happening? op = some (.polled index)) : op.bringsIndex = true := by
  unfold happening? at h
  split at h
  · rfl
  · rw [Option.map_eq_some_iff] at h
    obtain ⟨_, _, h⟩ := h
    cases h
  · rw [Option.map_eq_some_iff] at h
    obtain ⟨_, _, h⟩ := h
    split at h <;> cases h
  · cases h

theorem not_polled_of_bringsIndex {op : Operation} (hop : op.bringsIndex = false) (s : Dashboard) (index : Index) :
    s.happening? op ≠ some (.polled index) := by
  intro hwhat
  have hbrings := bringsIndex_of_polled hwhat
  rw [hop] at hbrings
  exact Bool.false_ne_true hbrings

theorem Meets.not_polled {s t : Dashboard} {op : Operation} {ops : List Operation} (h : Meets s ops t op)
    (hpoll : ∀ op ∈ ops, op.bringsIndex = false) (index : Index) : t.happening? op ≠ some (.polled index) :=
  not_polled_of_bringsIndex (hpoll op h.mem) t index

/-- What is begun is the command that was asked for. -/
theorem eq_begin_of_begun {s : Dashboard} {op : Operation} {p : PendingCommand}
    (h : s.happening? op = some (.begun p)) : op = .begin p.command := by
  unfold happening? at h
  split at h
  · cases h
  · rw [Option.map_eq_some_iff] at h
    obtain ⟨_, _, h⟩ := h
    cases h
    rfl
  · rw [Option.map_eq_some_iff] at h
    obtain ⟨_, _, h⟩ := h
    split at h <;> cases h
  · cases h

/-! ## Numbers of commands -/

/-- **The commands under way are numbered in the order of their begin**, and the next number is above them. -/
structure Numbered (s : Dashboard) : Prop where
  ascending : s.pending.Pairwise fun p q => p.id < q.id
  lt_nextId : ∀ p ∈ s.pending, p.id < s.nextId

theorem numbered_of_idle {s : Dashboard} (h : s.pending = []) : Numbered s := by
  refine ⟨?_, ?_⟩
  · rw [h]; exact List.Pairwise.nil
  · rw [h]; intro p hp; exact absurd hp List.not_mem_nil

theorem Numbered.filter {s t : Dashboard} (hs : Numbered s) {p : PendingCommand}
    (hpending : t.pending = s.pending.filter (·.id ≠ p.id)) (hnext : t.nextId = s.nextId) : Numbered t := by
  refine ⟨?_, ?_⟩
  · rw [hpending]
    exact hs.ascending.filter _
  · rw [hpending, hnext]
    exact fun q hq => hs.lt_nextId q (List.mem_of_mem_filter hq)

theorem Transition.numbered {s t : Dashboard} {h : Option Happening} (hstep : Transition s t h)
    (hs : Numbered s) : Numbered t := by
  cases hstep with
  | quiet _ hpending hnext => exact ⟨hpending ▸ hs.ascending, by rw [hpending, hnext]; exact hs.lt_nextId⟩
  | polled _ _ hpending hnext => exact ⟨hpending ▸ hs.ascending, by rw [hpending, hnext]; exact hs.lt_nextId⟩
  | begun p hid _ _ _ hpending hnext =>
      refine ⟨?_, ?_⟩
      · rw [hpending, List.pairwise_append]
        refine ⟨hs.ascending, List.pairwise_singleton _ _, fun q hq r hr => ?_⟩
        rw [List.mem_singleton.mp hr, hid]
        exact hs.lt_nextId q hq
      · rw [hpending, hnext]
        intro q hq
        rcases List.mem_append.mp hq with hold | hnew
        · exact Nat.lt_succ_of_lt (hs.lt_nextId q hold)
        · rw [List.mem_singleton.mp hnew, hid]
          exact Nat.lt_succ_self _
  | accepted p _ _ hpending hnext => exact hs.filter hpending hnext
  | withdrawn p _ _ _ hpending hnext => exact hs.filter hpending hnext
  | overtaken p _ _ _ _ _ hpending hnext => exact hs.filter hpending hnext

theorem Numbered.run {s : Dashboard} (hs : Numbered s) (ops : List Operation) : Numbered (s.run ops) :=
  run_invariant (fun s op h => (transition_step s op).numbered h) hs ops

theorem Meets.numbered {s t : Dashboard} {op : Operation} {ops : List Operation} (h : Meets s ops t op)
    (hs : Numbered s) : Numbered t := by
  obtain ⟨before, rfl⟩ := h.leads
  exact hs.run before

theorem Reachable.numbered {s : Dashboard} (h : Reachable s) : Numbered s := by
  obtain ⟨ops, rfl⟩ := h
  exact (numbered_of_idle rfl).run ops

theorem Numbered.nodup_ids {s : Dashboard} (hs : Numbered s) : (s.pending.map (·.id)).Nodup :=
  List.pairwise_map.mpr (hs.ascending.imp Nat.ne_of_lt)

/-- A number tells the commands under way apart. -/
theorem Numbered.eq_of_id {s : Dashboard} (hs : Numbered s) {p q : PendingCommand} (hp : p ∈ s.pending)
    (hq : q ∈ s.pending) (h : p.id = q.id) : p = q :=
  List.inj_on_of_nodup_map hs.nodup_ids hp hq h

theorem Numbered.find_id {s : Dashboard} (hs : Numbered s) {p : PendingCommand} (hp : p ∈ s.pending) :
    s.pending.find? (·.id = p.id) = some p := by
  cases hfind : s.pending.find? (·.id = p.id) with
  | none =>
      have hnone := List.find?_eq_none.mp hfind p hp
      exact absurd (decide_eq_true rfl) hnone
  | some q =>
      obtain ⟨hq, hid⟩ := mem_of_find_id hfind
      rw [hs.eq_of_id hq hp hid]

/-- What is under way was so before, or has just been begun under the next number. -/
theorem Transition.mem_pending {s t : Dashboard} {what : Option Happening} (hstep : Transition s t what)
    {q : PendingCommand} (hq : q ∈ t.pending) : q ∈ s.pending ∨ q.id = s.nextId ∧ what = some (.begun q) := by
  cases hstep with
  | quiet _ hpending _ => exact .inl (hpending ▸ hq)
  | polled _ _ hpending _ => exact .inl (hpending ▸ hq)
  | begun p hid _ _ _ hpending _ =>
      rw [hpending] at hq
      rcases List.mem_append.mp hq with hold | hnew
      · exact .inl hold
      · obtain rfl := List.mem_singleton.mp hnew
        exact .inr ⟨hid, rfl⟩
  | accepted p _ _ hpending _ => exact .inl (List.mem_of_mem_filter (hpending ▸ hq))
  | withdrawn p _ _ _ hpending _ => exact .inl (List.mem_of_mem_filter (hpending ▸ hq))
  | overtaken p _ _ _ _ _ hpending _ => exact .inl (List.mem_of_mem_filter (hpending ▸ hq))

theorem Transition.nextId_le {s t : Dashboard} {what : Option Happening} (hstep : Transition s t what) :
    s.nextId ≤ t.nextId := by
  cases hstep <;> omega

/-- **A number stays with its command**: no other is ever under way under it. -/
theorem Numbered.eq_of_mem_run {s : Dashboard} (hs : Numbered s) {p : PendingCommand} (hp : p ∈ s.pending)
    (ops : List Operation) {q : PendingCommand} (hq : q ∈ (s.run ops).pending) (hid : q.id = p.id) : q = p := by
  have hrun : p.id < (s.run ops).nextId ∧ ∀ r ∈ (s.run ops).pending, r.id = p.id → r = p := by
    refine run_invariant (P := fun t => p.id < t.nextId ∧ ∀ r ∈ t.pending, r.id = p.id → r = p) ?_ ?_ ops
    · rintro t op ⟨hlt, hentry⟩
      have hstep := transition_step t op
      refine ⟨Nat.lt_of_lt_of_le hlt hstep.nextId_le, ?_⟩
      intro r hr hrid
      rcases hstep.mem_pending hr with hold | ⟨hnew, _⟩
      · exact hentry r hold hrid
      · omega
    · exact ⟨hs.lt_nextId p hp, fun r hr hrid => hs.eq_of_id hr hp hrid⟩
  exact hrun.2 q hq hid

/-- The end of a command takes just its own entry away. -/
theorem Numbered.pending_perm {s : Dashboard} (hs : Numbered s) {p : PendingCommand} (hp : p ∈ s.pending) :
    s.pending.Perm (p :: s.pending.filter (·.id ≠ p.id)) := by
  have herase : s.pending.erase p = s.pending.filter (·.id ≠ p.id) := by
    rw [(List.Nodup.of_map _ hs.nodup_ids).erase_eq_filter p]
    refine List.filter_congr fun q hq => ?_
    by_cases h : q = p
    · subst h; simp
    · have hid : q.id ≠ p.id := fun he => h (hs.eq_of_id hq hp he)
      simp [h, hid]
  rw [← herase]
  exact List.perm_cons_erase hp

end Dashboard
end DeployBoard
