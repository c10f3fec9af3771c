import DeployBoard.Proofs.Dashboard.History
import DeployBoard.Proofs.View
import Mathlib.Data.List.Induction

/-!
# `Proofs.Dashboard.Pickers` — a picker for every repository

Pickers are kept beside the index and come and go with its repositories: a poll makes the ones that are missing
and drops those of repositories that are gone, and no other operation adds or removes an entry of either table.
`Repick` says once what an operation can do to the pickers. So in every state that the dashboard can come into, just
the repositories of the index have a picker (`Reachable.equipped`), and before the first successful poll there is
neither (`Reachable.index_of_loading`).

A repository's own picker changes by what is done to it, and is made anew when its repository comes back. What it is
at the end of a run is told from the last time that its repository came (`last_arrival`); `pickers_follow_index`
puts this together.
-/

namespace DeployBoard
namespace Dashboard

/-- **Just the repositories of the index have a picker.** -/
def Equipped (s : Dashboard) : Prop := ∀ name, s.pickers.contains name = s.index.contains name

variable {s t : Dashboard} {name : String}

/-! ## What an operation does to the names in a table -/

/-- Changing a value leaves the names as they are. -/
theorem contains_modify {α : Type} (table : Catalog α) (name : String) (f : α → α) (key : String) :
    (table.modify name f).contains key = table.contains key := by
  unfold Catalog.contains
  rw [Catalog.get?_modify]
  split
  · exact Option.isSome_map
  · rfl

/-- Writing under a name that has an entry leaves the names as they are. -/
theorem contains_insert_of_get? {index : Index} {old : Record} (hold : index.get? name = some old)
    (record : Record) (key : String) : (index.insert name record).contains key = index.contains key := by
  unfold Catalog.contains
  rw [Catalog.get?_insert]
  split
  · rename_i hkey
    rw [hkey, hold]
    rfl
  · rfl

/-- **Without a successful poll no repository comes or goes.** -/
theorem Transition.contains_eq {what : Option Happening} (h : Transition s t what)
    (hpoll : ∀ index, what ≠ some (.polled index)) (name : String) :
    t.index.contains name = s.index.contains name := by
  cases h with
  | quiet hindex _ _ => rw [hindex]
  | polled index _ _ _ => exact absurd rfl (hpoll index)
  | begun p _ hprevious _ hindex _ _ => rw [hindex, contains_insert_of_get? hprevious]
  | accepted p _ hindex _ _ => rw [hindex]
  | withdrawn p _ hfound hindex _ _ => rw [hindex, contains_insert_of_get? hfound]
  | overtaken p found _ _ _ hindex _ _ => rw [hindex]

theorem contains_index_step {op : Operation} (hop : op.bringsIndex = false) (s : Dashboard) (name : String) :
    (s.step op).index.contains name = s.index.contains name :=
  (transition_step s op).contains_eq (not_polled_of_bringsIndex hop s) name

/-- **What an operation can do** to the pickers: nothing, or a change of one of them, or, with a new index, to find
    the pickers of that index. Only the last is the end of loading. -/
inductive Repick (s : Dashboard) (op : Operation) (t : Dashboard) : Prop where
  | kept (hbrings : op.bringsIndex = false) (hpickers : t.pickers = s.pickers) (hloading : t.loading = s.loading)
  | changed (repo : String) (f : TagPicker → TagPicker) (hbrings : op.bringsIndex = false)
      (hrepo : op.pickerOf? s = some repo) (hpickers : t.pickers = s.pickers.modify repo f)
      (hloading : t.loading = s.loading)
  | polled (index : Index) (hbrings : op.bringsIndex = true) (hindex : t.index = index)
      (hpickers : t.pickers = pickersFor s.pickers index) (hloading : t.loading = false)

/-- Operations about the query or about a picker bring no index. -/
theorem bringsIndex_of_queryOf? {op : Operation} {query : Query} (h : op.queryOf? s = some query) :
    op.bringsIndex = false := by
  cases op with
  | setFreeText | addTerm | removeTerm | popTerm | clearQuery => rfl
  | poll | moveCursor | cycleTag | selectTag | setTagInput | begin | finish => cases h

theorem bringsIndex_of_pickerOf? {op : Operation} {repo : String} (h : op.pickerOf? s = some repo) :
    op.bringsIndex = false := by
  cases op with
  | cycleTag | selectTag | setTagInput => rfl
  | setFreeText | addTerm | removeTerm | popTerm | clearQuery | poll | moveCursor | begin | finish => cases h

theorem Operation.Idles.bringsIndex_eq {op : Operation} (h : op.Idles s) : op.bringsIndex = false := by
  cases op with
  | poll now event => cases h
  | setFreeText | addTerm | removeTerm | popTerm | clearQuery | moveCursor | cycleTag | selectTag | setTagInput
  | begin | finish => rfl

theorem Stepped.repick {op : Operation} (h : Stepped s op t) : Repick s op t := by
  cases h with
  | idle _ hidle => exact .kept hidle.bringsIndex_eq rfl rfl
  | requeried _ query hquery =>
      exact .kept (bringsIndex_of_queryOf? hquery) (refilter_pickers _) (refilter_loading _)
  | polled now index => exact .polled index rfl (refilter_index _) (refilter_pickers _) (refilter_loading _)
  | pollFailed => exact .kept rfl rfl rfl
  | moved => exact .kept rfl rfl rfl
  | unmoved => exact .kept rfl rfl rfl
  | repicked _ repo f hrepo => exact .changed repo f (bringsIndex_of_pickerOf? hrepo) hrepo rfl rfl
  | begun command previous hprevious =>
      unfold beginCommand
      rw [hprevious]
      exact .kept rfl (refilter_pickers _) (refilter_loading _)
  | accepted => exact .kept rfl rfl rfl
  | withdrawn => exact .kept rfl (refilter_pickers _) (refilter_loading _)
  | overtaken => exact .kept rfl rfl rfl

/-- **Every operation does one of these.** -/
theorem repick_step (s : Dashboard) (op : Operation) : Repick s op (s.step op) := (stepped_step s op).repick

/-! ## Every state -/

theorem equipped_step (s : Dashboard) (op : Operation) (h : Equipped s) : Equipped (s.step op) := by
  intro name
  cases repick_step s op with
  | kept hbrings hpickers _ => rw [hpickers, contains_index_step hbrings, h name]
  | changed repo f hbrings _ hpickers _ => rw [hpickers, contains_modify, contains_index_step hbrings, h name]
  | polled index _ hindex hpickers _ =>
      -- Whichever pickers there were before, now they are those of the index.
      rw [hpickers, hindex]
      unfold pickersFor Catalog.contains
      rw [Catalog.get?_map]
      exact Option.isSome_map

theorem Reachable.equipped (h : Reachable s) : Equipped s := by
  obtain ⟨ops, rfl⟩ := h
  exact run_invariant equipped_step (fun _ => rfl) ops

/-- A repository of the index has a picker. -/
theorem Equipped.picker (h : Equipped s) (hname : s.index.contains name = true) :
    ∃ picker, s.pickers.get? name = some picker := by
  rw [← h name] at hname
  exact Option.isSome_iff_exists.mp hname

/-- **Nothing is known before the first successful poll.** -/
theorem Reachable.index_of_loading (h : Reachable s) : s.loading = true → ∀ name, s.index.contains name = false := by
  obtain ⟨ops, rfl⟩ := h
  refine run_invariant (P := fun s => s.loading = true → ∀ name, s.index.contains name = false) ?_ ?_ ops
  · intro s op hs hloading name
    cases repick_step s op with
    | kept hbrings _ hkept => rw [contains_index_step hbrings, hs (hkept ▸ hloading) name]
    | changed _ _ hbrings _ _ hkept => rw [contains_index_step hbrings, hs (hkept ▸ hloading) name]
    | polled _ _ _ _ hdone => exact absurd (hdone.symm.trans hloading) Bool.false_ne_true
  · exact fun _ _ => rfl

/-! ## One repository -/

/-- **A picker is left alone** by an operation that is not about it, while its repository stays. -/
theorem Repick.get?_eq {op : Operation} (h : Repick s op t) (hbefore : s.pickers.contains name = true)
    (hafter : t.index.contains name = true) (hother : op.pickerOf? s ≠ some name) :
    t.pickers.get? name = s.pickers.get? name := by
  cases h with
  | kept _ hpickers _ => rw [hpickers]
  | changed repo f _ hrepo hpickers _ =>
      have hne : name ≠ repo := fun heq => hother (hrepo.trans (congrArg some heq.symm))
      rw [hpickers, Catalog.get?_modify, if_neg hne]
  | polled index _ hindex hpickers _ =>
      obtain ⟨picker, hpicker⟩ := Option.isSome_iff_exists.mp hbefore
      obtain ⟨record, hrecord⟩ := Option.isSome_iff_exists.mp hafter
      rw [hindex] at hrecord
      rw [hpickers, pickersFor, Catalog.get?_map, hrecord, hpicker]
      rfl

/-- **A repository comes with a successful poll, and its picker is at the record's version.** -/
theorem arrival_step (hs : Equipped s) (hbefore : s.index.contains name = false) {op : Operation} {record : Record}
    (hafter : (s.step op).index.get? name = some record) :
    op.bringsIndex = true ∧ (s.step op).pickers.get? name = some (TagPicker.ofRecord record) := by
  have hcontains : (s.step op).index.contains name = true := Catalog.contains_of_get? hafter
  have hcomes {bringing : Bool} (hbrings : op.bringsIndex = bringing) : bringing = true := by
    cases bringing with
    | true => rfl
    | false =>
        rw [contains_index_step hbrings, hbefore] at hcontains
        cases hcontains
  cases repick_step s op with
  | kept hbrings _ _ => exact absurd (hcomes hbrings) Bool.false_ne_true
  | changed _ _ hbrings _ _ _ => exact absurd (hcomes hbrings) Bool.false_ne_true
  | polled index hbrings hindex hpickers _ =>
      have hnone : s.pickers.get? name = none := by
        rw [← hs name] at hbefore
        exact Option.not_isSome_iff_eq_none.mp (Bool.not_eq_true _ ▸ hbefore)
      rw [hindex] at hafter
      refine ⟨hbrings, ?_⟩
      rw [hpickers, pickersFor, Catalog.get?_map, hafter, hnone]
      rfl

/-! ## Along a run -/

/-- After the operation `name` is in the index. -/
def staysIn (name : String) (s : Dashboard) (op : Operation) : Bool := (s.step op).index.contains name

/-- The operation is not about the picker of `name`. -/
def sparesPicker (name : String) (s : Dashboard) (op : Operation) : Bool := op.pickerOf? s ≠ some name

theorem throughout_append (check : Dashboard → Operation → Bool) (s : Dashboard) (ops more : List Operation) :
    throughout check s (ops ++ more) = (throughout check s ops && throughout check (s.run ops) more) := by
  induction ops generalizing s with
  | nil => rfl
  | cons op ops ih =>
      show (check s op && throughout check (s.step op) (ops ++ more)) = _
      rw [ih, ← Bool.and_assoc]
      rfl

/-- A picker is left alone by a run that is not about it, while its repository stays. -/
theorem get?_pickers_run {ops : List Operation} (hs : Equipped s) (hname : s.index.contains name = true)
    (hstays : throughout (staysIn name) s ops = true) (hspares : throughout (sparesPicker name) s ops = true) :
    (s.run ops).pickers.get? name = s.pickers.get? name := by
  induction ops generalizing s with
  | nil => rfl
  | cons op ops ih =>
      obtain ⟨hstay, hstays⟩ := Bool.and_eq_true_iff.mp hstays
      obtain ⟨hspare, hspares⟩ := Bool.and_eq_true_iff.mp hspares
      have hstep : (s.step op).pickers.get? name = s.pickers.get? name :=
        (repick_step s op).get?_eq ((hs name).trans hname) hstay (of_decide_eq_true hspare)
      exact (ih (equipped_step s op hs) hstay hstays hspares).trans hstep

/-- **A repository that is there now and was not has come at last**, after which it has stayed. By induction on the
    run from its end. -/
theorem last_arrival (ops : List Operation) (hbefore : s.index.contains name = false)
    (hafter : (s.run ops).index.contains name = true) :
    ∃ before op after, ops = before ++ op :: after ∧ (s.run before).index.contains name = false ∧
      ((s.run before).step op).index.contains name = true ∧
      throughout (staysIn name) ((s.run before).step op) after = true := by
  induction ops using List.reverseRecOn with
  | nil =>
      rw [show s.run [] = s from rfl, hbefore] at hafter
      cases hafter
  | append_singleton ops last ih =>
      rw [run_append] at hafter
      cases hbetween : (s.run ops).index.contains name with
      | false => exact ⟨ops, last, [], rfl, hbetween, hafter, rfl⟩
      | true =>
          obtain ⟨before, op, after, rfl, hgone, harrived, hstays⟩ := ih hbetween
          refine ⟨before, op, after ++ [last], List.append_assoc .., hgone, harrived, ?_⟩
          rw [run_append] at hafter
          rw [throughout_append, hstays, Bool.true_and]
          exact Bool.and_eq_true_iff.mpr ⟨hafter, rfl⟩

/-- **The pickers follow the index.** In every state that the dashboard can come into, just the repositories of the
    index have a picker, so that every displayed one has. A step leaves the picker of a repository that stays as it
    is, unless it steps through its tags, chooses one of them or changes its input. A repository comes with a successful
    poll, and its picker is then that of its record. So when one that was gone is there again, its picker is that of
    the record with which it came last, and no choice made before counts. -/
theorem pickers_follow_index :
    (∀ s, Reachable s →
      (∀ name, s.pickers.contains name = s.index.contains name) ∧
      ∀ entry ∈ s.display.entries, ∃ picker, s.pickers.get? entry.1 = some picker) ∧
    (∀ s op name, Reachable s → s.index.contains name = true → (s.step op).index.contains name = true →
      op.pickerOf? s ≠ some name → (s.step op).pickers.get? name = s.pickers.get? name) ∧
    (∀ s op name record, Reachable s → s.index.contains name = false →
      (s.step op).index.get? name = some record →
        op.bringsIndex = true ∧ (s.step op).pickers.get? name = some (TagPicker.ofRecord record)) ∧
    ∀ s ops name, Reachable s → s.index.contains name = false → (s.run ops).index.contains name = true →
      ∃ before op after record, ops = before ++ op :: after ∧ (s.run before).index.contains name = false ∧
        ((s.run before).step op).index.get? name = some record ∧
        throughout (staysIn name) ((s.run before).step op) after = true ∧
        ((s.run before).step op).pickers.get? name = some (TagPicker.ofRecord record) ∧
        (throughout (sparesPicker name) ((s.run before).step op) after = true →
          (s.run ops).pickers.get? name = some (TagPicker.ofRecord record)) := by
  refine ⟨fun s hs => ⟨hs.equipped, fun entry hentry => ?_⟩, fun s op name hs hbefore hafter hother => ?_,
    fun s op name record hs hbefore hafter => arrival_step hs.equipped hbefore hafter,
    fun s ops name hs hbefore hafter => ?_⟩
  · have hshown : s.display.contains entry.1 = true :=
      Catalog.contains_iff_mem_names.mpr (List.mem_map_of_mem hentry)
    exact hs.equipped.picker (hs.derived.index_contains hshown)
  · exact (repick_step s op).get?_eq ((hs.equipped name).trans hbefore) hafter hother
  · obtain ⟨before, op, after, rfl, hgone, harrived, hstays⟩ := last_arrival ops hbefore hafter
    obtain ⟨record, hrecord⟩ := Option.isSome_iff_exists.mp harrived
    have harrival := (arrival_step (hs.run before).equipped hgone hrecord).2
    refine ⟨before, op, after, record, rfl, hgone, hrecord, hstays, harrival, fun hspares => ?_⟩
    have hkept := get?_pickers_run ((hs.run before).step op).equipped harrived hstays hspares
    rw [run_append]
    exact hkept.trans harrival

/-- The board after "v2" was chosen for "api", and after a poll that does not list "api". -/
def sampleGone : Dashboard :=
  sampleBoard.run [.selectTag "api" "v2", .poll "12:00:05" (.updated (Catalog.ofList [("web", {})]))]

/-- A poll with "api" again, which runs "v3" by now. -/
def sampleReturn : Operation :=
  .poll "12:00:10" (.updated (Catalog.ofList [("api", { tags := ["v2", "v3"], pinnedTagValue := "v3" }), ("web", {})]))

/-- The choice of "v2" leaves the picker of "web" alone, and is forgotten when "api" comes back, whatever follows that
    is not about its picker. -/
theorem picker_afresh_after_return :
    (sampleBoard.step (.selectTag "api" "v2")).pickers.get? "web" = sampleBoard.pickers.get? "web" ∧
      sampleGone.index.contains "api" = false ∧
      (sampleGone.run [sampleReturn, .selectTag "web" "r-1"]).index.contains "api" = true ∧
      (∃ picker, (sampleGone.step sampleReturn).pickers.get? "api" = some picker) ∧
      (sampleGone.step sampleReturn).pickers.get? "api" = some ⟨"v3", "v3"⟩ ∧
      ∃ before op after record, [sampleReturn, .selectTag "web" "r-1"] = before ++ op :: after ∧
        ((sampleGone.run before).step op).index.get? "api" = some record ∧
        ((sampleGone.run before).step op).pickers.get? "api" = some (TagPicker.ofRecord record) := by
  have hgone : Reachable sampleGone := sampleBoard_reachable.run _
  obtain ⟨hevery, hspares, harrives, hreturns⟩ := pickers_follow_index
  have hkept := hspares sampleBoard (.selectTag "api" "v2") "web" sampleBoard_reachable (by decide) (by decide)
    (by decide)
  have hpicker := (hevery (sampleGone.step sampleReturn) (hgone.step _)).2
    ("api", { tags := ["v2", "v3"], pinnedTagValue := "v3" }) (by decide)
  have harrival := (harrives sampleGone sampleReturn "api" { tags := ["v2", "v3"], pinnedTagValue := "v3" } hgone
    (by decide) (by decide)).2
  obtain ⟨before, op, after, record, hops, _, hrecord, _, hback, _⟩ :=
    hreturns sampleGone [sampleReturn, .selectTag "web" "r-1"] "api" hgone (by decide) (by decide)
  exact ⟨hkept, by decide, by decide, hpicker, harrival, before, op, after, record, hops, hrecord, hback⟩

end Dashboard
end DeployBoard
