import DeployBoard.Proofs.Dashboard.Pickers

/-!
# `Proofs.Dashboard.Messages` — messages about failed commands

A command that fails leaves a message on its repository, which the next command begun there takes away. A poll that
does not list the repository takes the message away too, so that none should be left of a repository that is gone. But
failures come in at any time, also when a poll has already dropped the repository, and they leave their message all
the same. It is not shown then; it comes up when a later poll lists the repository again.

What a happening does to the message of a repository is `Happening.message?`, and `errorFor_isSome_step` that every
operation does this. `messages_listed_iff` tells from it exactly when there is a message without a repository: when a
command has failed whose repository was gone, and no poll has come since.
-/

namespace DeployBoard
namespace Dashboard

/-- **What a happening does to the message of `repo`**, if anything: it leaves one (`true`), or leaves none. -/
def Happening.message? (repo : String) : Happening → Option Bool
  | .polled index => if index.contains repo then none else some false
  | .begun p => if p.command.repo = repo then some false else none
  | .accepted _ => none
  | .failed p _ => if p.command.repo = repo then some true else none

/-- **A command on `repo` has failed when `repo` was gone**, and no poll has brought an index since. -/
def FailedGone (repo : String) : List Happening → Prop :=
  Since (fun _ what => ∃ p, what = .failed p none ∧ p.command.repo = repo) fun what => ∀ index, what ≠ .polled index

variable {s t : Dashboard} {op : Operation} {repo : String} {hist : List Happening}

/-! ## Messages -/

/-- **The message of a repository after a poll** is the one before, if the poll lists it. -/
theorem errorFor_applyPoll (s : Dashboard) (now : String) (index : Index) (repo : String) :
    (s.applyPoll now index).errorFor? repo = if index.contains repo then s.errorFor? repo else none := by
  unfold applyPoll errorFor?
  rw [refilter_errors, Catalog.get?_filter]
  cases s.errors.get? repo with
  | none => simp
  | some message =>
      cases index.contains repo with
      | true => simp
      | false => simp

theorem Stepped.message (h : Stepped s op t) (repo : String) :
    t.errors.contains repo = ((s.happening? op).bind (Happening.message? repo)).getD (s.errors.contains repo) := by
  cases h with
  | idle _ hidle => rw [hidle.happening?_eq]; rfl
  | requeried _ query hquery => rw [happening?_of_queryOf? hquery, refilter_errors]; rfl
  | polled now index =>
      have hpoll := s.errorFor_applyPoll now index repo
      show ((s.applyPoll now index).errorFor? repo).isSome = (Happening.message? repo (.polled index)).getD _
      rw [hpoll, Happening.message?]
      split <;> rfl
  | pollFailed => rfl
  | moved => rfl
  | unmoved => rfl
  | repicked _ name f hname => rw [happening?_of_pickerOf? hname]; rfl
  | begun command previous hprevious =>
      simp only [happening?, beginCommand, hprevious, refilter_errors, Catalog.contains_erase, Option.map_some,
        Option.bind_some, Happening.message?]
      split <;> rfl
  | accepted id p notice hfind =>
      simp only [happening?, hfind, Option.map_some, Option.bind_some, Happening.message?, Option.getD_none]
  | withdrawn id p e message hfind _ =>
      simp only [happening?, hfind, Catalog.contains_insert, Option.map_some, Option.bind_some, Happening.message?]
      split <;> rfl
  | overtaken id p e message hfind _ =>
      simp only [happening?, hfind, Catalog.contains_insert, Option.map_some, Option.bind_some, Happening.message?]
      split <;> rfl

/-- **Every operation does to the messages what its happening does.** -/
theorem errorFor_isSome_step (s : Dashboard) (op : Operation) (repo : String) :
    ((s.step op).errorFor? repo).isSome =
      ((s.happening? op).bind (Happening.message? repo)).getD (s.errorFor? repo).isSome :=
  (stepped_step s op).message repo

/-! ## Messages without a repository -/

/-- **There is a message, and its repository is gone.** -/
def MessageGone (s : Dashboard) (repo : String) : Prop :=
  (s.errorFor? repo).isSome = true ∧ s.index.contains repo = false

/-- Where the happening leaves the message alone, or the repository is there in any case, nothing is gone that was
    not. -/
theorem messageGone_congr {kept : Option Bool}
    (hmessage : (t.errorFor? repo).isSome = kept.getD (s.errorFor? repo).isSome)
    (hlisted : t.index.contains repo = s.index.contains repo)
    (hkept : kept = none ∨ s.index.contains repo = true) : MessageGone t repo ↔ MessageGone s repo := by
  unfold MessageGone
  rw [hlisted]
  rcases hkept with rfl | hthere
  · rw [hmessage, Option.getD_none]
  · simp [hthere]

/-- A command is no matter to `repo`, or it is on `repo` and that is there. -/
theorem spares_or_listed {p : PendingCommand} {record : Record} (h : s.index.get? p.command.repo = some record)
    (message : Bool) :
    (if p.command.repo = repo then some message else none) = none ∨ s.index.contains repo = true := by
  by_cases hrepo : p.command.repo = repo
  · right
    exact Catalog.contains_of_get? (hrepo ▸ h)
  · left
    exact if_neg hrepo

/-- **A step keeps the account**: a message has no repository just if its command failed when that was gone. Only polls
    and such failures matter; whatever else happens finds the repository there, or leaves the message alone. -/
theorem messageGone_step (op : Operation) (h : MessageGone s repo ↔ FailedGone repo hist) :
    MessageGone (s.step op) repo ↔ FailedGone repo (hist ++ (s.happening? op).toList) := by
  have hmessage := errorFor_isSome_step s op repo
  have htransition := transition_step s op
  generalize s.step op = t at hmessage htransition ⊢
  generalize s.happening? op = what at hmessage htransition ⊢
  have hother : (∀ index, what ≠ some (.polled index)) →
      (∀ p, what = some (.failed p none) → p.command.repo ≠ repo) →
      what.bind (Happening.message? repo) = none ∨ s.index.contains repo = true →
      (MessageGone t repo ↔ FailedGone repo (hist ++ what.toList)) := by
    intro hpoll hfailed hkept
    rw [messageGone_congr hmessage (htransition.contains_eq hpoll repo) hkept, h]
    cases what with
    | none => rw [Option.toList_none, List.append_nil]
    | some what =>
        rw [Option.toList_some, FailedGone, since_concat_iff]
        constructor
        · intro hold
          exact .inr ⟨fun index heq => hpoll index (congrArg some heq), hold⟩
        · rintro (⟨p, rfl, hrepo⟩ | ⟨_, hold⟩)
          · exact absurd hrepo (hfailed p rfl)
          · exact hold
  cases htransition with
  | quiet => exact hother nofun nofun (.inl rfl)
  | polled index hindex =>
      rw [Option.toList_some, FailedGone, since_concat_iff]
      constructor
      · rintro ⟨hsome, hgone⟩
        -- A poll that does not list the repository leaves no message.
        rw [hindex] at hgone
        rw [hmessage, Option.bind_some, Happening.message?, hgone] at hsome
        cases hsome
      · rintro (⟨p, hfailed, _⟩ | ⟨hnopoll, _⟩)
        · cases hfailed
        · exact absurd rfl (hnopoll index)
  | begun p _ hprevious => exact hother nofun nofun (spares_or_listed hprevious false)
  | accepted => exact hother nofun nofun (.inl rfl)
  | withdrawn p _ hfound => exact hother nofun nofun (spares_or_listed hfound true)
  | overtaken p found _ hfound _ hindex =>
      cases found with
      | some record => exact hother nofun nofun (spares_or_listed hfound true)
      | none =>
          by_cases hrepo : p.command.repo = repo
          · -- The message comes without the repository.
            rw [Option.toList_some, FailedGone, since_concat_iff]
            refine iff_of_true ⟨?_, ?_⟩ (.inl ⟨p, rfl, hrepo⟩)
            · rw [hmessage, Option.bind_some, Happening.message?, if_pos hrepo]
              rfl
            · rw [hindex, ← hrepo]
              exact Catalog.contains_eq_false_iff.mpr hfound
          · refine hother nofun ?_ (.inl (if_neg hrepo))
            intro q hq
            cases hq
            exact hrepo

/-! ## Runs -/

theorem messageGone_run (ops : List Operation) (repo : String) :
    MessageGone (run {} ops) repo ↔ FailedGone repo (history {} ops) := by
  have hstart : MessageGone {} repo ↔ FailedGone repo [] := by
    refine iff_of_false ?_ not_since_nil
    rintro ⟨hsome, _⟩
    cases hsome
  exact history_induction (P := fun hist t => MessageGone t repo ↔ FailedGone repo hist)
    (fun hist t op _ h => messageGone_step op h) hstart

/-- **When every message is about a repository that is there.** After a run from the start, a repository that is gone
    has a message exactly when a command on it has failed since it was gone, with no successful poll after the failure;
    so all messages are about repositories in the index exactly when there is no such failure. A poll that does not
    list a repository takes its message away, so none from before it was gone is left; one that lists it again
    shows the message that has come in between. -/
theorem messages_listed_iff (ops : List Operation) :
    ((∀ repo, ((run {} ops).errorFor? repo).isSome = true → (run {} ops).index.contains repo = true) ↔
      ∀ repo, ¬ FailedGone repo (history {} ops)) ∧
    (∀ repo, (run {} ops).index.contains repo = false →
      (((run {} ops).errorFor? repo).isSome = true ↔ FailedGone repo (history {} ops))) ∧
    ∀ repo now index,
      ((run {} ops).step (.poll now (.updated index))).errorFor? repo =
        if index.contains repo then (run {} ops).errorFor? repo else none := by
  refine ⟨?_, ?_, fun repo now index => errorFor_applyPoll _ now index repo⟩
  · constructor
    · intro hlisted repo hfailed
      obtain ⟨hsome, hgone⟩ := (messageGone_run ops repo).mpr hfailed
      rw [hlisted repo hsome] at hgone
      cases hgone
    · intro hnone repo hsome
      rw [← Bool.not_eq_false]
      intro hgone
      exact hnone repo ((messageGone_run ops repo).mp ⟨hsome, hgone⟩)
  · intro repo hgone
    rw [← messageGone_run]
    exact ⟨fun hsome => ⟨hsome, hgone⟩, fun h => h.1⟩

/-- A deploy of "api" is begun, a poll no longer lists "api", and then the deploy fails. -/
def sampleFailedGone : List Operation :=
  [.poll "12:00:00" (.updated (Catalog.ofList [("api", { tags := ["v1"] }), ("web", {})])),
   .begin ⟨"api", .deploy "v1"⟩, .poll "12:00:05" (.updated (Catalog.ofList [("web", {})])),
   .finish 0 (some .network)]

/-- The deploy as it was entered at its begin. -/
def sampleLost : PendingCommand :=
  ⟨0, ⟨"api", .deploy "v1"⟩, { tags := ["v1"] }, { tags := ["v1"], pinnedTag := "v1", pinnedTagValue := "v1" }⟩

/-- The failure leaves its message on "api", which is gone, and the message is shown once a poll lists "api" again. -/
theorem message_waits_for_return :
    (run {} sampleFailedGone).index.contains "api" = false ∧
      ((run {} sampleFailedGone).errorFor? "api").isSome = true ∧
      ((run {} sampleFailedGone).step (.poll "12:00:10" (.updated (Catalog.ofList [("api", {})])))).errorFor? "api" =
        some "deploy v1 failed: backend unreachable" := by
  obtain ⟨_, hgone, hpolled⟩ := messages_listed_iff sampleFailedGone
  have hmissing : (run {} sampleFailedGone).index.contains "api" = false := by decide
  have hfailed : FailedGone "api" (history {} sampleFailedGone) :=
    ⟨history {} (sampleFailedGone.take 3), _, [], by decide, ⟨sampleLost, rfl, rfl⟩,
      fun _ h => absurd h List.not_mem_nil⟩
  refine ⟨hmissing, (hgone "api" hmissing).mpr hfailed, ?_⟩
  rw [hpolled]
  decide

/-- **A message can outlive its repository**, and comes up again with it. -/
theorem not_messages_listed :
    (¬ ∀ s, Reachable s → ∀ repo, (s.errorFor? repo).isSome = true → s.index.contains repo = true) ∧
      ¬ ∀ s, Reachable s → ∀ repo, s.index.contains repo = false → ∀ now index,
        ((s.step (.poll now (.updated index))).errorFor? repo) = none := by
  have hreachable : Reachable (run {} sampleFailedGone) := ⟨_, rfl⟩
  constructor
  · intro h
    exact absurd (h _ hreachable "api" (by decide)) (by decide)
  · intro h
    exact absurd (h _ hreachable "api" (by decide) "12:00:10" (Catalog.ofList [("api", {})])) (by decide)

end Dashboard
end DeployBoard
