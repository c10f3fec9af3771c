import DeployBoard.Proofs.Dashboard.Stack
import DeployBoard.Proofs.View
import Mathlib.Algebra.Order.Group.Multiset
import Mathlib.Tactic.Abel

/-!
# `Proofs.Dashboard.Rollback` — what is left when every command has failed

A failure takes its effect back only where it finds the record that its command left. Otherwise it has been
**overtaken**: the record stays, and a command above it on the same repository still remembers the effect that
has just failed.

What comes of that is a matter of bookkeeping. On every repository the records that commands found and the
records that they left are in **balance** with the first and the present record (`Balanced`); a begin adds to
both sides, a failure that takes its effect back removes from both, and an overtaken failure stays on the
books for good. So a run in which every command fails leads back to the index that it started from exactly
when the overtaken failures cancel out (`rolledBack_iff_overtaken_cancel`), and it does so whenever failures
come newest first, as nothing is overtaken then.
-/

namespace DeployBoard
namespace Dashboard

/-- The end of a command without an error. -/
def Happening.isAccepted : Happening → Bool
  | .accepted _ => true
  | _ => false

/-- The command of a failure that took nothing back. -/
def Happening.overtaken? : Happening → Option PendingCommand
  | .failed p found => if found = some p.optimistic then none else some p
  | _ => none

/-- **The overtaken failures of a history.** -/
def overtakenIn (hist : List Happening) : List PendingCommand := hist.filterMap Happening.overtaken?

theorem overtakenIn_append (hist more : List Happening) :
    overtakenIn (hist ++ more) = overtakenIn hist ++ overtakenIn more := List.filterMap_append ..

theorem overtakenIn_failed_own (p : PendingCommand) : overtakenIn [.failed p (some p.optimistic)] = [] := by
  simp [overtakenIn, Happening.overtaken?]

theorem overtakenIn_failed_other {p : PendingCommand} {found : Option Record}
    (h : found ≠ some p.optimistic) : overtakenIn [.failed p found] = [p] := by
  simp [overtakenIn, Happening.overtaken?, h]

/-- Commands **cancel out** when they found the same records as they left, each as many times. -/
def CancelOut (ps : List PendingCommand) : Prop := (ps.map (·.previous)).Perm (ps.map (·.optimistic))

/-- **The index is as it was**, and shown under the terms of now. -/
def RolledBack (s t : Dashboard) : Prop :=
  t.index = s.index ∧ t.display = s.index.filterTerms t.query.terms

instance (s t : Dashboard) : Decidable (RolledBack s t) :=
  inferInstanceAs (Decidable (t.index = s.index ∧ t.display = s.index.filterTerms t.query.terms))

/-- Failures come **newest first**: no command on the same repository is under way that was begun later. -/
def newestFirst : Dashboard → List Operation → Bool :=
  throughout fun s op =>
    match s.happening? op with
    | some (.failed p _) => s.pending.all fun q => q.command.repo ≠ p.command.repo || q.id ≤ p.id
    | _ => true

/-! ## Records of commands -/

/-- The records that the commands on one repository found or left, as many times as they occur. -/
def recordsOf (field : PendingCommand → Record) (repo : String) (ps : List PendingCommand) :
    Multiset (Option Record) := (onRepo repo ps).map fun p => some (field p)

theorem recordsOf_perm (field : PendingCommand → Record) (repo : String) {ps qs : List PendingCommand}
    (h : ps.Perm qs) : recordsOf field repo ps = recordsOf field repo qs :=
  Multiset.coe_eq_coe.mpr ((h.filter _).map _)

/-- One command's record can be booked apart. -/
theorem recordsOf_perm_cons (field : PendingCommand → Record) (repo : String) {p : PendingCommand}
    {ps qs : List PendingCommand} (h : ps.Perm (p :: qs)) :
    recordsOf field repo ps = recordsOf field repo [p] + recordsOf field repo qs := by
  have hcons : onRepo repo (p :: qs) = onRepo repo [p] ++ onRepo repo qs := onRepo_append repo [p] qs
  rw [recordsOf_perm field repo h]
  unfold recordsOf
  rw [hcons, List.map_append, ← Multiset.coe_add]

/-- Two records change places: one that is written over, and the one that takes its place. -/
theorem get?_insert_swap (before after : PendingCommand → Record) {index : Index} {p : PendingCommand}
    (h : index.get? p.command.repo = some (before p)) (repo : String) :
    {(index.insert p.command.repo (after p)).get? repo} + recordsOf before repo [p] =
      ({index.get? repo} + recordsOf after repo [p] : Multiset (Option Record)) := by
  rw [Catalog.get?_insert]
  unfold recordsOf
  by_cases hrepo : p.command.repo = repo
  · subst hrepo
    rw [if_pos rfl, onRepo_singleton_self, h]
    exact add_comm _ _
  · rw [if_neg (Ne.symm hrepo), onRepo_singleton_of_ne hrepo]
    rfl

/-! ## The balance -/

/-- **The books of one repository**: the record at first and all that commands left are the record now and all
    that commands found. `lost` are the commands whose failure was overtaken. -/
def Balanced (base : Option Record) (repo : String) (lost : List PendingCommand) (s : Dashboard) : Prop :=
  ({base} + recordsOf (·.optimistic) repo (s.pending ++ lost) : Multiset (Option Record)) =
    {s.index.get? repo} + recordsOf (·.previous) repo (s.pending ++ lost)

variable {base : Option Record} {repo : String} {lost : List PendingCommand} {s t : Dashboard}

/-- The end of a command takes its own entry off the books. -/
theorem Numbered.books_perm (hs : Numbered s) {p : PendingCommand} (hp : p ∈ s.pending)
    (hpending : t.pending = s.pending.filter (·.id ≠ p.id)) (lost : List PendingCommand) :
    (s.pending ++ lost).Perm (p :: (t.pending ++ lost)) := by
  rw [hpending]
  exact (hs.pending_perm hp).append_right lost

/-- Only the record and the entries count, and these in any order. -/
theorem Balanced.congr {lost' : List PendingCommand} (hb : Balanced base repo lost s)
    (hindex : t.index = s.index) (hperm : (s.pending ++ lost).Perm (t.pending ++ lost')) :
    Balanced base repo lost' t := by
  unfold Balanced at hb ⊢
  rw [hindex, ← recordsOf_perm _ repo hperm, ← recordsOf_perm _ repo hperm]
  exact hb

theorem Balanced.begun (hb : Balanced base repo lost s) {p : PendingCommand}
    (hprevious : s.index.get? p.command.repo = some p.previous)
    (hindex : t.index = s.index.insert p.command.repo p.optimistic) (hpending : t.pending = s.pending ++ [p]) :
    Balanced base repo lost t := by
  have hperm : (t.pending ++ lost).Perm (p :: (s.pending ++ lost)) := by
    rw [hpending, List.append_assoc]
    exact List.perm_middle
  have hswap := get?_insert_swap (·.previous) (·.optimistic) hprevious repo
  unfold Balanced at hb ⊢
  rw [recordsOf_perm_cons _ repo hperm, recordsOf_perm_cons _ repo hperm, hindex]
  calc ({base} + (recordsOf (·.optimistic) repo [p] + recordsOf (·.optimistic) repo (s.pending ++ lost)))
      = {base} + recordsOf (·.optimistic) repo (s.pending ++ lost) + recordsOf (·.optimistic) repo [p] := by
          abel
    _ = {s.index.get? repo} + recordsOf (·.optimistic) repo [p] +
          recordsOf (·.previous) repo (s.pending ++ lost) := by rw [hb]; abel
    _ = _ := by rw [← hswap, add_assoc]

theorem Balanced.withdrawn (hb : Balanced base repo lost s) (hs : Numbered s) {p : PendingCommand}
    (hp : p ∈ s.pending) (hfound : s.index.get? p.command.repo = some p.optimistic)
    (hindex : t.index = s.index.insert p.command.repo p.previous)
    (hpending : t.pending = s.pending.filter (·.id ≠ p.id)) : Balanced base repo lost t := by
  have hperm := hs.books_perm hp hpending lost
  have hswap := get?_insert_swap (·.optimistic) (·.previous) hfound repo
  unfold Balanced at hb ⊢
  rw [recordsOf_perm_cons _ repo hperm, recordsOf_perm_cons _ repo hperm] at hb
  rw [hindex]
  -- What `p` left stands on both sides, once it is traded for what `p` found.
  apply add_right_cancel (b := recordsOf (·.optimistic) repo [p])
  calc ({base} + recordsOf (·.optimistic) repo (t.pending ++ lost) + recordsOf (·.optimistic) repo [p])
      = {base} + (recordsOf (·.optimistic) repo [p] + recordsOf (·.optimistic) repo (t.pending ++ lost)) := by
          abel
    _ = {s.index.get? repo} + recordsOf (·.previous) repo [p] +
          recordsOf (·.previous) repo (t.pending ++ lost) := by rw [hb, add_assoc]
    _ = _ := by rw [← hswap]; abel

/-- The end of a command whose failure is overtaken puts it from one list into the other. -/
theorem Balanced.overtaken (hb : Balanced base repo lost s) (hs : Numbered s) {p : PendingCommand}
    (hp : p ∈ s.pending) (hindex : t.index = s.index) (hpending : t.pending = s.pending.filter (·.id ≠ p.id)) :
    Balanced base repo (lost ++ [p]) t := by
  refine hb.congr hindex ?_
  refine (hs.books_perm hp hpending lost).trans ?_
  rw [← List.append_assoc]
  exact (List.perm_append_singleton p _).symm

/-- **A step keeps the books in balance**, unless it brings an index or accepts a command. -/
theorem Transition.balanced {hist : List Happening} {what : Option Happening} (hstep : Transition s t what)
    (hs : Numbered s) (hpoll : ∀ index, what ≠ some (.polled index)) (haccept : ∀ p, what ≠ some (.accepted p))
    (hb : Balanced base repo (overtakenIn hist) s) :
    Balanced base repo (overtakenIn (hist ++ what.toList)) t := by
  rw [overtakenIn_append]
  cases hstep with
  | quiet hindex hpending _ =>
      refine hb.congr hindex ?_
      rw [hpending]
      exact (List.append_nil _).symm ▸ List.Perm.refl _
  | polled index => exact absurd rfl (hpoll index)
  | begun p _ hprevious _ hindex hpending _ =>
      exact (List.append_nil _).symm ▸ hb.begun hprevious hindex hpending
  | accepted p => exact absurd rfl (haccept p)
  | withdrawn p hp hfound hindex hpending _ =>
      rw [Option.toList_some, overtakenIn_failed_own, List.append_nil]
      exact hb.withdrawn hs hp hfound hindex hpending
  | overtaken p found hp _ hother hindex hpending _ =>
      rw [Option.toList_some, overtakenIn_failed_other hother]
      exact hb.overtaken hs hp hindex hpending

/-! ## Runs in which every command fails -/

theorem Meets.not_accepted {ops : List Operation} {op : Operation} (h : Meets s ops t op)
    (hfail : ∀ what ∈ s.history ops, what.isAccepted = false) (p : PendingCommand) :
    t.happening? op ≠ some (.accepted p) := by
  intro hwhat
  have haccepted := hfail _ (h.happening_mem hwhat)
  exact Bool.false_ne_true haccepted.symm

theorem balanced_run {ops : List Operation} (hs : Numbered s) (hidle : s.pending = [])
    (hpoll : ∀ op ∈ ops, op.bringsIndex = false) (hfail : ∀ what ∈ s.history ops, what.isAccepted = false) :
    Balanced (s.index.get? repo) repo (overtakenIn (s.history ops)) (s.run ops) := by
  have hstart : Balanced (s.index.get? repo) repo (overtakenIn []) s := by
    unfold Balanced
    rw [hidle]
    rfl
  refine history_induction (P := fun hist t => Balanced (s.index.get? repo) repo (overtakenIn hist) t) ?_ hstart
  intro hist t op hmeets hb
  exact (transition_step t op).balanced (hmeets.numbered hs) (hmeets.not_polled hpoll)
    (hmeets.not_accepted hfail) hb

/-- With nothing under way any more, the books of a repository hold only overtaken failures. -/
theorem get?_eq_iff_of_balanced (hb : Balanced base repo lost t) (hidle : t.pending = []) :
    t.index.get? repo = base ↔ CancelOut (onRepo repo lost) := by
  have hrecords : recordsOf (·.previous) repo lost = recordsOf (·.optimistic) repo lost ↔
      CancelOut (onRepo repo lost) := by
    unfold recordsOf CancelOut
    rw [Multiset.coe_eq_coe, ← List.map_perm_map_iff (Option.some_injective Record), List.map_map, List.map_map]
    rfl
  unfold Balanced at hb
  rw [hidle, List.nil_append] at hb
  rw [← hrecords]
  constructor
  · intro hrecord
    rw [hrecord] at hb
    exact (add_left_cancel hb).symm
  · intro hcancel
    rw [hcancel] at hb
    exact (Multiset.singleton_inj.mp (add_right_cancel hb)).symm

/-- A step in which the newest command fails, if any does, leaves commands stacked and overtakes nothing. -/
theorem Transition.piled {what : Option Happening} (hstep : Transition s t what) (hs : Numbered s) (h : Piled s)
    (hpoll : ∀ index, what ≠ some (.polled index)) (haccept : ∀ p, what ≠ some (.accepted p))
    (hnewest : ∀ p found, what = some (.failed p found) →
      ∀ q ∈ s.pending, q.command.repo = p.command.repo → q.id ≤ p.id) :
    Piled t ∧ overtakenIn what.toList = [] := by
  cases hstep with
  | quiet hindex hpending _ =>
      refine ⟨?_, rfl⟩
      unfold Piled
      rw [hindex, hpending]
      exact h
  | polled index => exact absurd rfl (hpoll index)
  | begun p _ hprevious hoptimistic hindex hpending _ =>
      exact ⟨h.begun hprevious hoptimistic hindex hpending, rfl⟩
  | accepted p => exact absurd rfl (haccept p)
  | withdrawn p hp _ hindex hpending _ =>
      exact ⟨h.withdrawn hs hp (hnewest p _ rfl) hindex hpending, overtakenIn_failed_own p⟩
  | overtaken p found hp hfound hother _ _ _ =>
      -- The newest command is on top of its pile, so it cannot have found another record.
      obtain ⟨hown, _⟩ := h.found_of_newest hs hp (hnewest p found rfl)
      exact absurd (hfound.symm.trans hown) hother

/-- **Failures that come newest first are never overtaken.** -/
theorem overtakenIn_eq_nil_of_newestFirst {ops : List Operation} (hs : Numbered s) (hidle : s.pending = [])
    (hpoll : ∀ op ∈ ops, op.bringsIndex = false) (hfail : ∀ what ∈ s.history ops, what.isAccepted = false)
    (hnewest : newestFirst s ops = true) : overtakenIn (s.history ops) = [] := by
  have hstart : Piled s ∧ overtakenIn [] = [] := ⟨piled_of_idle hidle, rfl⟩
  have hpiled : Piled (s.run ops) ∧ overtakenIn (s.history ops) = [] := by
    refine history_induction (P := fun hist t => Piled t ∧ overtakenIn hist = []) ?_ hstart
    rintro hist t op hmeets ⟨hpile, hnil⟩
    have hnew : ∀ p found, t.happening? op = some (.failed p found) →
        ∀ q ∈ t.pending, q.command.repo = p.command.repo → q.id ≤ p.id := by
      intro p found hwhat q hq hrepo
      have hcheck := hmeets.check hnewest
      simp only [hwhat] at hcheck
      have hentry := List.all_eq_true.mp hcheck q hq
      simpa [hrepo] using hentry
    obtain ⟨hpile', hnone⟩ := (transition_step t op).piled (hmeets.numbered hs) hpile (hmeets.not_polled hpoll)
      (hmeets.not_accepted hfail) hnew
    refine ⟨hpile', ?_⟩
    rw [overtakenIn_append, hnil, hnone]
    rfl
  exact hpiled.2

/-- **What a run leaves when every command fails.** From a state with nothing under way, let a run bring no
    index, accept no command and leave nothing under way. Then it leads back to the index that it started from
    exactly when on every repository the overtaken failures found the same records, each as many times, as
    they left. It does so whenever failures come newest first. -/
theorem rolledBack_iff_overtaken_cancel {s : Dashboard} (hs : Reachable s) (hidle : s.pending = [])
    {ops : List Operation} (hpoll : ∀ op ∈ ops, op.bringsIndex = false)
    (hfail : ∀ what ∈ s.history ops, what.isAccepted = false) (hdone : (s.run ops).pending = []) :
    (RolledBack s (s.run ops) ↔ ∀ repo, CancelOut (onRepo repo (overtakenIn (s.history ops)))) ∧
      (newestFirst s ops = true → RolledBack s (s.run ops)) := by
  -- What is shown needs no books of its own: it is derived from the index in every state.
  have hview : RolledBack s (s.run ops) ↔ (s.run ops).index = s.index := by
    constructor
    · exact fun h => h.1
    · intro hindex
      have hderived := (hs.run ops).derived
      unfold Derived at hderived
      rw [hindex] at hderived
      exact ⟨hindex, hderived⟩
  have hiff : RolledBack s (s.run ops) ↔ ∀ repo, CancelOut (onRepo repo (overtakenIn (s.history ops))) := by
    rw [hview]
    constructor
    · intro hindex repo
      rw [← get?_eq_iff_of_balanced (balanced_run hs.numbered hidle hpoll hfail) hdone, hindex]
    · intro hcancel
      apply Catalog.ext_get?
      intro repo
      rw [get?_eq_iff_of_balanced (balanced_run hs.numbered hidle hpoll hfail) hdone]
      exact hcancel repo
  refine ⟨hiff, ?_⟩
  intro hnewest
  rw [hiff, overtakenIn_eq_nil_of_newestFirst hs.numbered hidle hpoll hfail hnewest]
  intro repo
  exact List.Perm.refl _

/-- Two commands on one repository fail, the later one first, and one on another repository in between. -/
theorem rolledBack_nested_failures :
    RolledBack sampleBoard (sampleBoard.run
      [.begin ⟨"api", .deploy "v1"⟩, .begin ⟨"web", .reset⟩, .begin ⟨"api", .reset⟩,
       .finish 2 (some .network), .finish 1 (some .timeout), .finish 0 (some .network)]) :=
  (rolledBack_iff_overtaken_cancel sampleBoard_reachable (by decide) (by decide) (by decide) (by decide)).2
    (by decide)

/-- When the earlier of two deploys fails first, the failure of the later one brings the earlier one's effect
    back, and nothing is under way that could take it away. -/
theorem not_rolledBack_oldest_first :
    ¬ ∀ s, Reachable s → s.pending = [] → ∀ ops, (∀ op ∈ ops, op.bringsIndex = false) →
      (∀ what ∈ s.history ops, what.isAccepted = false) → (s.run ops).pending = [] →
        RolledBack s (s.run ops) := by
  intro h
  have hrolled := h sampleBoard sampleBoard_reachable (by decide)
    [.begin ⟨"api", .deploy "v1"⟩, .begin ⟨"api", .deploy "v2"⟩,
     .finish 0 (some .network), .finish 1 (some .network)]
    (by decide) (by decide) (by decide)
  exact absurd hrolled (by decide)

end Dashboard
end DeployBoard
