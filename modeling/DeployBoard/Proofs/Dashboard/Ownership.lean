import DeployBoard.Proofs.View
import DeployBoard.Proofs.Dashboard.History

/-!
# `Proofs.Dashboard.Ownership` — whose record a failure takes back

A failing command is to undo its own change and nothing else. Whose record it is that stands in the index is
told by the **last write**: of all polls, begins and failures that took their effect back, the last one that
wrote the repository's record (`get?_run_eq_last_write`). The dashboard looks at the record itself instead, so
a write that left the very record of the failing command is taken for the command's own.
`failure_spares_newer_iff` states when a failure leaves newer writes alone: exactly when the last of them left
another record, or the command had changed nothing in the first place.
-/

namespace DeployBoard
namespace Dashboard

/-- The record that a happening writes for a repository, if it writes one; `some none` is a poll without the
    repository. -/
def Happening.writeTo? (repo : String) : Happening → Option (Option Record)
  | .polled index => some (index.get? repo)
  | .begun p => if p.command.repo = repo then some (some p.optimistic) else none
  | .accepted _ => none
  | .failed p found =>
    if p.command.repo = repo ∧ found = some p.optimistic then some (some p.previous) else none

/-- **All writes of a repository's record**, oldest first. -/
def writesTo (repo : String) (hist : List Happening) : List (Option Record) :=
  hist.filterMap (Happening.writeTo? repo)

/-- **Something newer stands in the index**: since `hist` began, a poll has brought an index, or a command on
    the repository has been begun that is still under way or has been accepted. -/
def Superseded (repo : String) (hist : List Happening) (t : Dashboard) : Prop :=
  (∃ index, .polled index ∈ hist) ∨
    ∃ q, .begun q ∈ hist ∧ q.command.repo = repo ∧ (q ∈ t.pending ∨ .accepted q ∈ hist)

/-- The index is as it was, and so is what is shown of it. -/
def Untouched (s t : Dashboard) : Prop := t.index = s.index ∧ t.display = s.display

instance (s t : Dashboard) : Decidable (Untouched s t) :=
  inferInstanceAs (Decidable (t.index = s.index ∧ t.display = s.display))

/-! ## The last write -/

theorem writesTo_append (repo : String) (hist more : List Happening) :
    writesTo repo (hist ++ more) = writesTo repo hist ++ writesTo repo more := List.filterMap_append ..

variable {s t : Dashboard} {repo : String} {hist : List Happening}

theorem Superseded.writesTo_ne_nil (h : Superseded repo hist t) : writesTo repo hist ≠ [] := by
  have hwrite : ∃ what ∈ hist, ∃ record, what.writeTo? repo = some record := by
    rcases h with ⟨index, hmem⟩ | ⟨q, hmem, hrepo, _⟩
    · exact ⟨_, hmem, index.get? repo, rfl⟩
    · exact ⟨_, hmem, some q.optimistic, if_pos hrepo⟩
  obtain ⟨what, hmem, record, hwhat⟩ := hwrite
  exact List.ne_nil_of_mem (List.mem_filterMap.mpr ⟨what, hmem, hwhat⟩)

/-- A step leaves the record that it writes, or the one that stood there. -/
theorem Transition.get?_eq {what : Option Happening} (hstep : Transition s t what) (repo : String) :
    t.index.get? repo = (what.bind (Happening.writeTo? repo)).getD (s.index.get? repo) := by
  cases hstep with
  | quiet hindex _ _ => rw [hindex]; rfl
  | polled index hindex _ _ => rw [hindex]; rfl
  | begun p _ _ _ hindex _ _ =>
      rw [hindex, Catalog.get?_insert, Option.bind_some, Happening.writeTo?]
      by_cases hrepo : p.command.repo = repo
      · subst hrepo; simp
      · simp [hrepo, Ne.symm hrepo]
  | accepted p _ hindex _ _ => rw [hindex]; rfl
  | withdrawn p _ _ hindex _ _ =>
      rw [hindex, Catalog.get?_insert, Option.bind_some, Happening.writeTo?]
      by_cases hrepo : p.command.repo = repo
      · subst hrepo; simp
      · simp [hrepo, Ne.symm hrepo]
  | overtaken p found _ _ hother hindex _ _ =>
      rw [hindex, Option.bind_some, Happening.writeTo?, if_neg fun h => hother h.2]
      rfl

/-- **The record of a repository is the one written last**; without a write it is the one at first. -/
theorem get?_run_eq_last_write (s : Dashboard) (ops : List Operation) (repo : String) :
    (s.run ops).index.get? repo = (writesTo repo (s.history ops)).getLast?.getD (s.index.get? repo) := by
  have hstart : s.index.get? repo = (writesTo repo []).getLast?.getD (s.index.get? repo) := rfl
  refine history_induction
    (P := fun hist t => t.index.get? repo = (writesTo repo hist).getLast?.getD (s.index.get? repo)) ?_ hstart
  intro hist t op _ hlast
  rw [(transition_step t op).get?_eq repo, hlast, writesTo_append, List.getLast?_append]
  cases hwrite : (t.happening? op).bind (Happening.writeTo? repo) with
  | none =>
      have hnil : writesTo repo (t.happening? op).toList = [] := by
        cases hwhat : t.happening? op with
        | none => rfl
        | some what =>
            rw [hwhat, Option.bind_some] at hwrite
            exact List.filterMap_cons_none hwrite
      rw [hnil]
      rfl
  | some record =>
      have hone : writesTo repo (t.happening? op).toList = [record] := by
        cases hwhat : t.happening? op with
        | none => rw [hwhat] at hwrite; cases hwrite
        | some what =>
            rw [hwhat, Option.bind_some] at hwrite
            exact List.filterMap_cons_some hwrite
      rw [hone]
      rfl

/-! ## Failures -/

/-- A failure either finds its own record and puts the earlier one there, or leaves the index alone. -/
theorem Transition.index_of_failed {p : PendingCommand} {found : Option Record}
    (hstep : Transition s t (some (.failed p found))) :
    found = some p.optimistic ∧ t.index = s.index.insert p.command.repo p.previous ∨
      found ≠ some p.optimistic ∧ t.index = s.index := by
  cases hstep with
  | withdrawn _ _ _ hindex _ _ => exact .inl ⟨rfl, hindex⟩
  | overtaken _ _ _ _ hother hindex _ _ => exact .inr ⟨hother, hindex⟩

/-- **A failure changes nothing** exactly when it finds another record than its command left, or one that the
    command found already. -/
theorem untouched_finish_iff (ht : Reachable t) {p : PendingCommand} (hp : p ∈ t.pending) (e : ClientError) :
    Untouched t (t.step (.finish p.id (some e))) ↔
      (t.index.get? p.command.repo = some p.optimistic → p.optimistic = p.previous) := by
  have hview : Untouched t (t.step (.finish p.id (some e))) ↔
      (t.step (.finish p.id (some e))).index = t.index := by
    constructor
    · exact fun h => h.1
    · intro hindex
      have hafter := (ht.step (.finish p.id (some e))).derived
      have hquery : (t.step (.finish p.id (some e))).query = t.query := step_query t (.finish p.id (some e))
      unfold Derived at hafter
      rw [hindex, hquery, ← ht.derived] at hafter
      exact ⟨hindex, hafter⟩
  have hwhat : t.happening? (.finish p.id (some e)) = some (.failed p (t.index.get? p.command.repo)) := by
    simp only [happening?, ht.numbered.find_id hp, Option.map_some]
  have hstep := transition_step t (.finish p.id (some e))
  rw [hwhat] at hstep
  rw [hview]
  rcases hstep.index_of_failed with ⟨hown, hindex⟩ | ⟨hother, hindex⟩
  · rw [hindex]
    constructor
    · intro hsame _
      have hrecord := Catalog.get?_insert t.index p.command.repo p.previous p.command.repo
      rw [hsame, hown, if_pos rfl] at hrecord
      exact Option.some.inj hrecord
    · intro hnothing
      apply Catalog.ext_get?
      intro repo
      rw [Catalog.get?_insert]
      by_cases hrepo : repo = p.command.repo
      · rw [if_pos hrepo, hrepo, hown, hnothing hown]
      · rw [if_neg hrepo]
  · rw [hindex]
    constructor
    · intro _ hown
      exact absurd hown hother
    · intro _
      rfl

/-- A command that is still under way after a run has the entry of its begin. -/
theorem mem_pending_of_begun (hs : Numbered s) {c : Command} {p : PendingCommand}
    (hbegun : s.happening? (.begin c) = some (.begun p)) {ops : List Operation}
    (hpending : p.id ∈ ((s.step (.begin c)).run ops).pending.map (·.id)) :
    p ∈ ((s.step (.begin c)).run ops).pending := by
  have hstep := transition_step s (.begin c)
  rw [hbegun] at hstep
  have hentry : p ∈ (s.step (.begin c)).pending := by
    cases hstep with
    | begun _ _ _ _ _ hentries _ =>
        rw [hentries]
        exact List.mem_append_right _ List.mem_cons_self
  obtain ⟨q, hq, hid⟩ := List.mem_map.mp hpending
  have hqp : q = p := (hstep.numbered hs).eq_of_mem_run hentry ops hq hid
  exact hqp ▸ hq

/-- **When a failure spares what is newer.** In a state that the dashboard can come into, let `c` be begun
    under the number `id` on a repository with the record `previous`, let any run follow in which it stays
    under way, and let something newer stand in the index at the end. Then the record has been written since
    `c` was begun; and the failure of `c` leaves the whole index and what is shown of it as they are exactly
    when the last of those writes left another record than `c` did, or `c` had changed nothing at all. -/
theorem failure_spares_newer_iff {s : Dashboard} (hs : Reachable s) {c : Command} {previous : Record}
    (hprevious : s.index.get? c.repo = some previous) {id : Nat} (hid : (s.beginCommand c).2 = some id)
    {ops : List Operation} (hpending : id ∈ ((s.step (.begin c)).run ops).pending.map (·.id))
    (hnewer : Superseded c.repo ((s.step (.begin c)).history ops) ((s.step (.begin c)).run ops))
    (e : ClientError) :
    ∃ last, (writesTo c.repo ((s.step (.begin c)).history ops)).getLast? = some last ∧
      (Untouched ((s.step (.begin c)).run ops) (((s.step (.begin c)).run ops).step (.finish id (some e))) ↔
        (last = some (c.action.apply previous) → c.action.apply previous = previous)) := by
  have hnumber : s.nextId = id := by
    unfold beginCommand at hid
    rw [hprevious] at hid
    exact Option.some.inj hid
  subst hnumber
  have hbegun : s.happening? (.begin c) = some (.begun ⟨s.nextId, c, previous, c.action.apply previous⟩) := by
    simp only [happening?, hprevious, Option.map_some]
  have hown := mem_pending_of_begun hs.numbered hbegun hpending
  obtain ⟨last, hlast⟩ := Option.isSome_iff_exists.mp (List.getLast?_isSome.mpr hnewer.writesTo_ne_nil)
  refine ⟨last, hlast, ?_⟩
  have hrecord := get?_run_eq_last_write (s.step (.begin c)) ops c.repo
  rw [hlast, Option.getD_some] at hrecord
  rw [← hrecord]
  exact untouched_finish_iff ((hs.step (.begin c)).run ops) hown e

/-- A later deploy of another tag is spared. -/
theorem failure_spares_later_deploy :
    Untouched (sampleBoard.run [.begin ⟨"api", .deploy "v1"⟩, .begin ⟨"api", .deploy "v2"⟩])
      (sampleBoard.run
        [.begin ⟨"api", .deploy "v1"⟩, .begin ⟨"api", .deploy "v2"⟩, .finish 0 (some .network)]) := by
  have hprevious : sampleBoard.index.get? "api" =
      some { tags := ["v1", "v2"], pinnedTagValue := "v0", autoDeploy := true } := by decide
  have hid : (sampleBoard.beginCommand ⟨"api", .deploy "v1"⟩).2 = some 0 := by decide
  have hpending : 0 ∈ ((sampleBoard.step (.begin ⟨"api", .deploy "v1"⟩)).run
      [.begin ⟨"api", .deploy "v2"⟩]).pending.map (·.id) := by decide
  have hwritten : (writesTo "api" ((sampleBoard.step (.begin ⟨"api", .deploy "v1"⟩)).history
      [.begin ⟨"api", .deploy "v2"⟩])).getLast? =
        some (some { tags := ["v1", "v2"], pinnedTag := "v2", pinnedTagValue := "v2", autoDeploy := true }) := by
    decide
  obtain ⟨last, hlast, hiff⟩ := failure_spares_newer_iff sampleBoard_reachable hprevious hid hpending
    (.inr ⟨_, List.mem_cons_self, rfl, .inl (by decide)⟩) .network
  rw [hwritten] at hlast
  cases hlast
  exact hiff.mpr fun heq => absurd heq (by decide)

/-- A poll that brings the very record that a command has left is taken for the command's own change: the
    failure of the command takes back what the backend has just said. -/
theorem failure_overwrites_equal_poll :
    ¬ ∀ s, Reachable s → ∀ c id, (s.beginCommand c).2 = some id → ∀ ops,
      id ∈ ((s.step (.begin c)).run ops).pending.map (·.id) →
        Superseded c.repo ((s.step (.begin c)).history ops) ((s.step (.begin c)).run ops) →
          ∀ e, Untouched ((s.step (.begin c)).run ops)
            (((s.step (.begin c)).run ops).step (.finish id (some e))) := by
  intro h
  have hpoll := h sampleBoard sampleBoard_reachable ⟨"api", .deploy "v1"⟩ 0 (by decide)
    [.poll "12:00:05" (.updated (Catalog.ofList
      [("api", { tags := ["v1", "v2"], pinnedTag := "v1", pinnedTagValue := "v1", autoDeploy := true })]))]
    (by decide) (.inl ⟨_, List.mem_cons_self⟩) .network
  exact absurd hpoll (by decide)

end Dashboard
end DeployBoard
