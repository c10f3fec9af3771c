import DeployBoard.Proofs.Dashboard.Stack

/-!
# `Proofs.Dashboard.Ledger` — the index as a ledger of commands

While no command is begun on a repository that has one under way, the snapshots and their withdrawal come to
something simple: the record of a repository is the one at first with the commands carried out on it that have
not failed, in the order of their begin (`index_eq_ledger_of_alone`). What it means to carry a command out is said of
the fields of the record (`Action.Does`), and the dashboard's own expectation of an action is just that (`does_iff`).

The invariant ties the ledger to the snapshots: the commands that have not failed are stacked, the newest on
top, and a command under way is the top of its stack (`Kept`). So a failure finds the record that its command
left and takes the top off, which is what crossing it out in the ledger does.
-/

namespace DeployBoard

/-! ## Effects -/

/-- **What an action does to a record**: a deployment pins its tag, which is then the current version too; the switch is
    set; a reset takes the pin off and sets the switch. Nothing else in the record changes. -/
inductive Action.Does : Action → Record → Record → Prop where
  | deploy (tag : String) (tags : List String) (pinned current : String) (auto : Bool) :
      Does (.deploy tag) ⟨tags, pinned, current, auto⟩ ⟨tags, tag, tag, auto⟩
  | setAutoDeploy (enabled : Bool) (tags : List String) (pinned current : String) (auto : Bool) :
      Does (.setAutoDeploy enabled) ⟨tags, pinned, current, auto⟩ ⟨tags, pinned, current, enabled⟩
  | reset (tags : List String) (pinned current : String) (auto : Bool) :
      Does .reset ⟨tags, pinned, current, auto⟩ ⟨tags, "", current, true⟩

/-- **Commands are carried out on a record**, one after the other. -/
inductive CarriedOut : List Command → Record → Record → Prop where
  | nil (record : Record) : CarriedOut [] record record
  | cons {command : Command} {commands : List Command} {before between after : Record}
      (h : command.action.Does before between) (rest : CarriedOut commands between after) :
      CarriedOut (command :: commands) before after

/-- **The dashboard expects of an action what it does.** -/
theorem Action.does_iff {action : Action} {before after : Record} :
    action.Does before after ↔ after = action.apply before := by
  obtain ⟨tags, pinned, current, auto⟩ := before
  cases action with
  | deploy tag =>
      constructor
      · rintro ⟨⟩
        rfl
      · rintro rfl
        exact .deploy tag tags pinned current auto
  | setAutoDeploy enabled =>
      constructor
      · rintro ⟨⟩
        rfl
      · rintro rfl
        exact .setAutoDeploy enabled tags pinned current auto
  | reset =>
      constructor
      · rintro ⟨⟩
        rfl
      · rintro rfl
        exact .reset tags pinned current auto

namespace Dashboard

/-- The command that a happening begins. -/
def Happening.begun? : Happening → Option PendingCommand
  | .begun p => some p
  | _ => none

/-- The number of the command that a happening ends with an error. -/
def Happening.failedId? : Happening → Option Nat
  | .failed p _ => some p.id
  | _ => none

/-- The commands begun, oldest first. -/
def begunIn (hist : List Happening) : List PendingCommand := hist.filterMap Happening.begun?

/-- The numbers of the commands that failed. -/
def failedIn (hist : List Happening) : List Nat := hist.filterMap Happening.failedId?

/-- **The commands on a repository that have not failed**, in the order of their begin. -/
def standing (repo : String) (hist : List Happening) : List PendingCommand :=
  (onRepo repo (begunIn hist)).filter (·.id ∉ failedIn hist)

/-- **The ledger of a repository**: what its commands that have not failed ask for. -/
def ledger (repo : String) (hist : List Happening) : List Command := (standing repo hist).map (·.command)

/-- What the dashboard expects of commands on a record, one after the other. -/
def carryOut (commands : List Command) (record : Record) : Record :=
  commands.foldl (fun r c => c.action.apply r) record

/-- A command is begun only where none is under way on its repository. -/
def alone : Dashboard → List Operation → Bool :=
  throughout fun s op =>
    match op with
    | .begin c => !s.isPending c.repo
    | _ => true

/-! ## Commands carried out -/

/-- **What the dashboard expects of commands is what carrying them out comes to.** -/
theorem carriedOut_iff {commands : List Command} {before after : Record} :
    CarriedOut commands before after ↔ after = carryOut commands before := by
  induction commands generalizing before with
  | nil =>
      constructor
      · rintro ⟨⟩
        rfl
      · rintro rfl
        exact .nil _
  | cons command commands ih =>
      constructor
      · rintro (_ | ⟨hdoes, hrest⟩)
        obtain rfl := Action.does_iff.mp hdoes
        exact ih.mp hrest
      · intro hafter
        exact .cons (Action.does_iff.mpr rfl) (ih.mpr hafter)

theorem carryOut_tags (commands : List Command) (record : Record) :
    (carryOut commands record).tags = record.tags := by
  induction commands generalizing record with
  | nil => rfl
  | cons c commands ih =>
      exact (ih (c.action.apply record)).trans (c.action.apply_tags record)

/-- What is on top of a stack is its base with the commands of the stack replayed. -/
theorem Stacked.eq_map_carryOut {base record : Option Record} {ps : List PendingCommand}
    (h : Stacked base ps.reverse record) : record = base.map (carryOut (ps.map (·.command))) := by
  have hfold := h.replay
  rw [List.foldr_reverse] at hfold
  rw [hfold]
  clear hfold h
  induction ps generalizing base with
  | nil => cases base <;> rfl
  | cons p ps ih =>
      rw [List.foldl_cons, ih, Option.map_map]
      rfl

/-! ## Histories that grow -/

variable {s t : Dashboard} {hist : List Happening}

theorem begunIn_append (hist more : List Happening) :
    begunIn (hist ++ more) = begunIn hist ++ begunIn more := List.filterMap_append ..

theorem failedIn_append (hist more : List Happening) :
    failedIn (hist ++ more) = failedIn hist ++ failedIn more := List.filterMap_append ..

/-- **The numbers of a history**: commands were begun in the order of their numbers, and no number is used
    that is still to be given. -/
structure Recorded (hist : List Happening) (t : Dashboard) : Prop where
  ascending : (begunIn hist).Pairwise fun p q => p.id < q.id
  begun_lt : ∀ p ∈ begunIn hist, p.id < t.nextId
  failed_lt : ∀ id ∈ failedIn hist, id < t.nextId

theorem recorded_start (s : Dashboard) : Recorded [] s :=
  ⟨List.Pairwise.nil, fun _ h => absurd h List.not_mem_nil, fun _ h => absurd h List.not_mem_nil⟩

theorem Recorded.eq_of_id (hrec : Recorded hist t) {p q : PendingCommand} (hp : p ∈ begunIn hist)
    (hq : q ∈ begunIn hist) (h : p.id = q.id) : p = q := by
  have hnodup : ((begunIn hist).map (·.id)).Nodup := List.pairwise_map.mpr (hrec.ascending.imp Nat.ne_of_lt)
  exact List.inj_on_of_nodup_map hnodup hp hq h

theorem Transition.recorded {what : Option Happening} (hstep : Transition s t what) (hs : Numbered s)
    (hrec : Recorded hist s) : Recorded (hist ++ what.toList) t := by
  have hle := hstep.nextId_le
  have hbegun_lt : ∀ p ∈ begunIn hist, p.id < t.nextId :=
    fun p hp => Nat.lt_of_lt_of_le (hrec.begun_lt p hp) hle
  have hfailed_lt : ∀ ids, (∀ id ∈ ids, id < t.nextId) → ∀ id ∈ failedIn hist ++ ids, id < t.nextId := by
    intro ids hids id hid
    rcases List.mem_append.mp hid with hbefore | hnow
    · exact Nat.lt_of_lt_of_le (hrec.failed_lt id hbefore) hle
    · exact hids id hnow
  have hnone : ∀ id ∈ ([] : List Nat), id < t.nextId := fun _ h => absurd h List.not_mem_nil
  have hone : ∀ p ∈ s.pending, ∀ id ∈ [p.id], id < t.nextId := by
    intro p hp id hid
    rw [List.mem_singleton.mp hid]
    exact Nat.lt_of_lt_of_le (hs.lt_nextId p hp) hle
  -- Whatever begins no command leaves the numbers begun as they are.
  have hsame : begunIn what.toList = [] → (∀ id ∈ failedIn what.toList, id < t.nextId) →
      Recorded (hist ++ what.toList) t := by
    intro hbegun hfailed
    refine ⟨?_, ?_, ?_⟩
    · rw [begunIn_append, hbegun, List.append_nil]
      exact hrec.ascending
    · rw [begunIn_append, hbegun, List.append_nil]
      exact hbegun_lt
    · rw [failedIn_append]
      exact hfailed_lt _ hfailed
  cases hstep with
  | quiet _ _ _ => exact hsame rfl hnone
  | polled _ _ _ _ => exact hsame rfl hnone
  | begun p hid _ _ _ _ hnext =>
      have hbegun : begunIn (some (Happening.begun p)).toList = [p] := rfl
      refine ⟨?_, ?_, ?_⟩
      · rw [begunIn_append, hbegun, List.pairwise_append]
        refine ⟨hrec.ascending, List.pairwise_singleton _ _, ?_⟩
        intro q hq r hr
        rw [List.mem_singleton.mp hr, hid]
        exact hrec.begun_lt q hq
      · rw [begunIn_append, hbegun]
        intro q hq
        rcases List.mem_append.mp hq with hbefore | hnow
        · exact hbegun_lt q hbefore
        · obtain rfl := List.mem_singleton.mp hnow
          omega
      · rw [failedIn_append]
        exact hfailed_lt _ hnone
  | accepted _ _ _ _ _ => exact hsame rfl hnone
  | withdrawn p hp _ _ _ _ => exact hsame rfl (hone p hp)
  | overtaken p _ hp _ _ _ _ _ => exact hsame rfl (hone p hp)

/-! ## The ledger and the stacks -/

theorem standing_append_quiet {repo : String} {more : List Happening} (hbegun : begunIn more = [])
    (hfailed : failedIn more = []) : standing repo (hist ++ more) = standing repo hist := by
  unfold standing
  rw [begunIn_append, failedIn_append, hbegun, hfailed, List.append_nil, List.append_nil]

theorem mem_begunIn_of_standing {repo : String} {p : PendingCommand} (h : p ∈ standing repo hist) :
    p ∈ begunIn hist ∧ p.command.repo = repo := by
  have hmem := List.mem_filter.mp (List.mem_of_mem_filter h)
  exact ⟨hmem.1, of_decide_eq_true hmem.2⟩

/-- A new command comes on top of those on its repository. -/
theorem Recorded.standing_begun (hrec : Recorded hist s) {p : PendingCommand} (hid : p.id = s.nextId)
    (repo : String) : standing repo (hist ++ [.begun p]) = standing repo hist ++ onRepo repo [p] := by
  have hfresh : p.id ∉ failedIn hist := by
    intro hmem
    have hlt := hrec.failed_lt p.id hmem
    omega
  have hkeep : (onRepo repo [p]).filter (·.id ∉ failedIn hist) = onRepo repo [p] := by
    rw [List.filter_eq_self]
    intro q hq
    obtain rfl := List.mem_singleton.mp (List.mem_of_mem_filter hq)
    exact decide_eq_true hfresh
  have hbegun : begunIn [Happening.begun p] = [p] := rfl
  have hfailed : failedIn [Happening.begun p] = [] := rfl
  unfold standing
  rw [begunIn_append, failedIn_append, hbegun, hfailed, List.append_nil]
  rw [onRepo_append, List.filter_append, hkeep]

/-- A failure crosses its command out. -/
theorem standing_failed (hist : List Happening) (p : PendingCommand) (found : Option Record) (repo : String) :
    standing repo (hist ++ [.failed p found]) = (standing repo hist).filter (·.id ≠ p.id) := by
  have hbegun : begunIn [Happening.failed p found] = [] := rfl
  have hfailed : failedIn [Happening.failed p found] = [p.id] := rfl
  unfold standing
  rw [begunIn_append, failedIn_append, hbegun, hfailed, List.append_nil, List.filter_filter]
  refine List.filter_congr fun q _ => ?_
  rw [Bool.eq_iff_iff]
  simp [List.mem_append, and_comm]

/-- **The ledger is kept**: on every repository the commands that have not failed are stacked on the record at
    first, and a command under way is on top. -/
structure Kept (s : Dashboard) (hist : List Happening) (t : Dashboard) : Prop where
  recorded : Recorded hist t
  stacked : ∀ repo, Stacked (s.index.get? repo) (standing repo hist).reverse (t.index.get? repo)
  top : ∀ p ∈ t.pending, (standing p.command.repo hist).getLast? = some p

theorem kept_start (hidle : s.pending = []) : Kept s [] s := by
  refine ⟨recorded_start s, fun _ => rfl, ?_⟩
  rw [hidle]
  intro p hp
  exact absurd hp List.not_mem_nil

/-- A command under way finds the record that it left, and its failure leaves the rest of its stack in the
    ledger. -/
theorem Kept.top_off (hk : Kept s hist t) {p : PendingCommand} (hp : p ∈ t.pending) :
    t.index.get? p.command.repo = some p.optimistic ∧
      Stacked (s.index.get? p.command.repo) ((standing p.command.repo hist).filter (·.id ≠ p.id)).reverse
        (some p.previous) := by
  obtain ⟨older, hsplit⟩ := List.getLast?_eq_some_iff.mp (hk.top p hp)
  have hascending : (standing p.command.repo hist).Pairwise fun q r => q.id < r.id :=
    (hk.recorded.ascending.filter _).filter _
  have hstack := hk.stacked p.command.repo
  rw [hsplit] at hascending hstack ⊢
  rw [filter_concat_of_ascending hascending]
  rw [List.reverse_concat] at hstack
  obtain ⟨hfound, _, hunder⟩ := hstack
  exact ⟨hfound, hunder⟩

/-- The failure of a command crosses nothing out on another repository. -/
theorem Kept.standing_filter_of_ne (hk : Kept s hist t) {p : PendingCommand} (hp : p ∈ t.pending)
    {repo : String} (h : p.command.repo ≠ repo) :
    (standing repo hist).filter (·.id ≠ p.id) = standing repo hist := by
  have hbegun : p ∈ begunIn hist := (mem_begunIn_of_standing (List.mem_of_getLast? (hk.top p hp))).1
  rw [List.filter_eq_self]
  intro q hq
  obtain ⟨hqbegun, hqrepo⟩ := mem_begunIn_of_standing hq
  refine decide_eq_true ?_
  intro hid
  have hqp := hk.recorded.eq_of_id hqbegun hbegun hid
  exact h (hqp ▸ hqrepo)

/-! ## Steps -/

theorem Kept.congr {t' : Dashboard} {more : List Happening} (hk : Kept s hist t)
    (hrec : Recorded (hist ++ more) t') (hbegun : begunIn more = []) (hfailed : failedIn more = [])
    (hindex : t'.index = t.index) (hpending : ∀ p ∈ t'.pending, p ∈ t.pending) : Kept s (hist ++ more) t' := by
  refine ⟨hrec, ?_, ?_⟩
  · intro repo
    rw [standing_append_quiet hbegun hfailed, hindex]
    exact hk.stacked repo
  · intro p hp
    rw [standing_append_quiet hbegun hfailed]
    exact hk.top p (hpending p hp)

theorem Kept.begun {t' : Dashboard} (hk : Kept s hist t) {p : PendingCommand}
    (hrec : Recorded (hist ++ [.begun p]) t') (hid : p.id = t.nextId)
    (halone : ∀ q ∈ t.pending, q.command.repo ≠ p.command.repo)
    (hprevious : t.index.get? p.command.repo = some p.previous)
    (hoptimistic : p.optimistic = p.command.action.apply p.previous)
    (hindex : t'.index = t.index.insert p.command.repo p.optimistic)
    (hpending : t'.pending = t.pending ++ [p]) : Kept s (hist ++ [.begun p]) t' := by
  refine ⟨hrec, ?_, ?_⟩
  · intro repo
    rw [hk.recorded.standing_begun hid, hindex]
    exact (hk.stacked repo).begun hprevious hoptimistic
  · rw [hpending]
    intro q hq
    rw [hk.recorded.standing_begun hid]
    rcases List.mem_append.mp hq with hold | hnew
    · rw [onRepo_singleton_of_ne (Ne.symm (halone q hold)), List.append_nil]
      exact hk.top q hold
    · obtain rfl := List.mem_singleton.mp hnew
      rw [onRepo_singleton_self]
      exact List.getLast?_concat

theorem Kept.withdrawn {t' : Dashboard} (hk : Kept s hist t) {p : PendingCommand} {found : Option Record}
    (hrec : Recorded (hist ++ [.failed p found]) t') (hp : p ∈ t.pending)
    (hindex : t'.index = t.index.insert p.command.repo p.previous)
    (hpending : t'.pending = t.pending.filter (·.id ≠ p.id)) : Kept s (hist ++ [.failed p found]) t' := by
  refine ⟨hrec, ?_, ?_⟩
  · intro repo
    rw [standing_failed, hindex, Catalog.get?_insert]
    by_cases hrepo : p.command.repo = repo
    · subst hrepo
      rw [if_pos rfl]
      exact (hk.top_off hp).2
    · rw [hk.standing_filter_of_ne hp hrepo, if_neg (Ne.symm hrepo)]
      exact hk.stacked repo
  · rw [hpending]
    intro q hq
    obtain ⟨hq, hid⟩ := List.mem_filter.mp hq
    rw [standing_failed]
    -- Another command under way is on another repository: one stack has one top.
    have hrepo : p.command.repo ≠ q.command.repo := by
      intro hrepo
      have htop := hk.top p hp
      rw [hrepo, hk.top q hq] at htop
      exact absurd (congrArg PendingCommand.id (Option.some.inj htop)) (of_decide_eq_true hid)
    rw [hk.standing_filter_of_ne hp hrepo]
    exact hk.top q hq

/-- **A step keeps the ledger**, if it brings no index and begins no command beside another. -/
theorem Transition.kept {t' : Dashboard} {what : Option Happening} (hstep : Transition t t' what)
    (ht : Numbered t) (hpoll : ∀ index, what ≠ some (.polled index))
    (halone : ∀ p, what = some (.begun p) → ∀ q ∈ t.pending, q.command.repo ≠ p.command.repo)
    (hk : Kept s hist t) : Kept s (hist ++ what.toList) t' := by
  have hrec := hstep.recorded ht hk.recorded
  cases hstep with
  | quiet hindex hpending _ => exact hk.congr hrec rfl rfl hindex (fun p hp => hpending ▸ hp)
  | polled index => exact absurd rfl (hpoll index)
  | begun p hid hprevious hoptimistic hindex hpending _ =>
      exact hk.begun hrec hid (halone p rfl) hprevious hoptimistic hindex hpending
  | accepted p _ hindex hpending _ =>
      exact hk.congr hrec rfl rfl hindex (fun q hq => List.mem_of_mem_filter (hpending ▸ hq))
  | withdrawn p hp _ hindex hpending _ => exact hk.withdrawn hrec hp hindex hpending
  | overtaken p found hp hfound hother _ _ _ =>
      -- A command under way is on top of its stack, so it finds its own record.
      exact absurd (hfound.symm.trans (hk.top_off hp).1) hother

/-! ## Runs -/

theorem kept_run {ops : List Operation} (hs : Numbered s) (hidle : s.pending = [])
    (hpoll : ∀ op ∈ ops, op.bringsIndex = false) (halone : alone s ops = true) :
    Kept s (s.history ops) (s.run ops) := by
  refine history_induction (P := fun hist t => Kept s hist t) ?_ (kept_start hidle)
  intro hist t op hmeets hk
  refine (transition_step t op).kept (hmeets.numbered hs) (hmeets.not_polled hpoll) ?_ hk
  intro p hwhat q hq hrepo
  have hcheck := hmeets.check halone
  rw [eq_begin_of_begun hwhat] at hcheck
  have hbusy : t.isPending p.command.repo = true := List.any_eq_true.mpr ⟨q, hq, decide_eq_true hrepo⟩
  simp only [hbusy, Bool.not_true, Bool.false_eq_true] at hcheck

/-- The ledger is told by the numbers of commands and by those that failed. -/
theorem ledger_congr {repo : String} {hist' : List Happening}
    (hbegun : (begunIn hist').map (fun p => (p.id, p.command)) = (begunIn hist).map fun p => (p.id, p.command))
    (hfailed : ∀ id, id ∈ failedIn hist' ↔ id ∈ failedIn hist) : ledger repo hist' = ledger repo hist := by
  have hpairs : ∀ h, ledger repo h = (((begunIn h).map fun p => (p.id, p.command)).filter
      fun entry => decide (entry.1 ∉ failedIn h) && decide (entry.2.repo = repo)).map (·.2) := by
    intro h
    unfold ledger standing onRepo
    rw [List.filter_filter, List.filter_map, List.map_map]
    rfl
  rw [hpairs, hpairs, hbegun]
  simp only [hfailed]

/-- **The index is a ledger of commands.** From a state with nothing under way, let a run bring no index and
    begin no command on a repository that has one under way. Then, wherever the run stops, the record of every
    repository is the one at first with the commands on it that have not failed carried out in the order of
    their begin, and its tags are as they were. So it does not matter in which order commands end: a run that
    begins the same commands, and in which the same ones fail, leads to the same index. -/
theorem index_eq_ledger_of_alone {s : Dashboard} (hs : Reachable s) (hidle : s.pending = [])
    {ops : List Operation} (hpoll : ∀ op ∈ ops, op.bringsIndex = false) (halone : alone s ops = true) :
    (∀ repo, Option.Rel (CarriedOut (ledger repo (s.history ops))) (s.index.get? repo) ((s.run ops).index.get? repo)) ∧
    (∀ repo, ((s.run ops).index.get? repo).map (·.tags) = (s.index.get? repo).map (·.tags)) ∧
    ∀ ops', (∀ op ∈ ops', op.bringsIndex = false) → alone s ops' = true →
      (begunIn (s.history ops')).map (fun p => (p.id, p.command)) =
        (begunIn (s.history ops)).map (fun p => (p.id, p.command)) →
      (∀ id, id ∈ failedIn (s.history ops') ↔ id ∈ failedIn (s.history ops)) →
      (s.run ops').index = (s.run ops).index := by
  have hledger : ∀ more, (∀ op ∈ more, op.bringsIndex = false) → alone s more = true → ∀ repo,
      (s.run more).index.get? repo = (s.index.get? repo).map (carryOut (ledger repo (s.history more))) := by
    intro more hquiet hsingle repo
    exact ((kept_run hs.numbered hidle hquiet hsingle).stacked repo).eq_map_carryOut
  refine ⟨?_, ?_, ?_⟩
  · intro repo
    rw [hledger ops hpoll halone]
    cases s.index.get? repo with
    | none => exact .none
    | some record => exact .some (carriedOut_iff.mpr rfl)
  · intro repo
    rw [hledger ops hpoll halone, Option.map_map]
    congr 1
    funext record
    exact carryOut_tags _ record
  · intro ops' hpoll' halone' hbegun hfailed
    apply Catalog.ext_get?
    intro repo
    rw [hledger ops' hpoll' halone', hledger ops hpoll halone, ledger_congr hbegun hfailed]

/-- A deployment of `api`, and then a reset of it beside a deployment of `web`, which end as said. -/
def sampleOverlap (ends : List Operation) : List Operation :=
  [.begin ⟨"api", .deploy "v1"⟩, .finish 0 none, .begin ⟨"api", .reset⟩, .begin ⟨"web", .deploy "r-1"⟩] ++ ends

/-- The deployment of `web` fails after the reset of `api` was accepted. -/
def overlapEnds : List Operation := sampleOverlap [.finish 1 none, .finish 2 (some .network)]

/-- It fails before. -/
def overlapExchanged : List Operation := sampleOverlap [.finish 2 (some .network), .finish 1 none]

/-- **The order in which commands on two repositories end is of no account.** The one repository has what was deployed as its
    current version and no pin, and the other, on which the command failed, is as it was. -/
theorem index_eq_of_exchanged_ends :
    (sampleBoard.run overlapExchanged).index = (sampleBoard.run overlapEnds).index ∧
      (sampleBoard.run overlapEnds).index.get? "api" =
        some { tags := ["v1", "v2"], pinnedTag := "", pinnedTagValue := "v1", autoDeploy := true } ∧
      (sampleBoard.run overlapEnds).index.get? "web" =
        some { tags := ["r-1"], pinnedTag := "r-0", pinnedTagValue := "r-0", autoDeploy := false } := by
  have hpoll : ∀ op ∈ overlapEnds, op.bringsIndex = false := by decide
  obtain ⟨hrecords, -, horder⟩ := index_eq_ledger_of_alone sampleBoard_reachable (by decide) hpoll (by decide)
  have hbegun : (begunIn (sampleBoard.history overlapExchanged)).map (fun p => (p.id, p.command)) =
      [(0, ⟨"api", .deploy "v1"⟩), (1, ⟨"api", .reset⟩), (2, ⟨"web", .deploy "r-1"⟩)] := by decide
  have hfailed : failedIn (sampleBoard.history overlapExchanged) = [2] := by decide
  refine ⟨horder _ (by decide) (by decide) ?_ ?_, ?_, ?_⟩
  · rw [hbegun]
    decide
  · rw [hfailed]
    intro id
    exact Iff.rfl
  · have hledger : ledger "api" (sampleBoard.history overlapEnds) = [⟨"api", .deploy "v1"⟩, ⟨"api", .reset⟩] := by decide
    have hfirst : sampleBoard.index.get? "api" =
        some { tags := ["v1", "v2"], pinnedTagValue := "v0", autoDeploy := true } := by decide
    have hrecord := hrecords "api"
    rw [hledger, hfirst] at hrecord
    generalize (sampleBoard.run overlapEnds).index.get? "api" = found at hrecord ⊢
    obtain ⟨_ | ⟨⟨⟩, _ | ⟨⟨⟩, ⟨⟩⟩⟩⟩ := hrecord
    rfl
  · have hledger : ledger "web" (sampleBoard.history overlapEnds) = [] := by decide
    have hfirst : sampleBoard.index.get? "web" =
        some { tags := ["r-1"], pinnedTag := "r-0", pinnedTagValue := "r-0", autoDeploy := false } := by decide
    have hrecord := hrecords "web"
    rw [hledger, hfirst] at hrecord
    generalize (sampleBoard.run overlapEnds).index.get? "web" = found at hrecord ⊢
    obtain ⟨⟨⟩⟩ := hrecord
    rfl

end Dashboard
end DeployBoard
