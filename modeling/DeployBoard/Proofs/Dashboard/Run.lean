import DeployBoard.Dashboard.State

/-!
# `Proofs.Dashboard.Run` — the dashboard as a machine

The dashboard changes by **operations**: edits of the query, polls, moves of the cursor, choices of tags, and
the begin and end of commands. `step` carries one out and `run` a list of them, in order; a state is
`Reachable` when some run leads to it from the dashboard as it is before the first poll.

Operations that answer something besides the new state (`addTerm`, `beginCommand`, …) are taken for the new
state alone here. Moves of the cursor and of a tag picker are those without machine words: where the sum
overflows there is no next state.
-/

namespace DeployBoard
namespace Dashboard

/-- **What can be done to a dashboard.** -/
inductive Operation where
  | setFreeText (text : String)
  | addTerm (term : String)
  | removeTerm (term : String)
  | popTerm
  | clearQuery
  | poll (now : String) (event : PollEvent)
  | moveCursor (delta : Int)
  | cycleTag (delta : Int)
  | selectTag (repo tag : String)
  | setTagInput (repo text : String)
  | begin (command : Command)
  | finish (id : Nat) (error : Option ClientError)

/-- A successful poll. -/
def Operation.bringsIndex : Operation → Bool
  | .poll _ (.updated _) => true
  | _ => false

/-- The dashboard after one operation. -/
def step (s : Dashboard) : Operation → Dashboard
  | .setFreeText text => s.setFreeText text
  | .addTerm term => (s.addTerm term).1
  | .removeTerm term => (s.removeTerm term).1
  | .popTerm => s.popTerm.1
  | .clearQuery => s.clearQuery
  | .poll now event => s.handlePoll now event
  | .moveCursor delta => s.moveCursor delta
  | .cycleTag delta => s.cycleTag delta
  | .selectTag repo tag => s.selectTag repo tag
  | .setTagInput repo text => s.setTagInput repo text
  | .begin command => (s.beginCommand command).1
  | .finish id error => (s.finishCommand id error).1

/-- The dashboard after operations, in their order. -/
def run (s : Dashboard) (ops : List Operation) : Dashboard := ops.foldl step s

/-- Every operation of a run passes `check` in the state that it meets. -/
def throughout (check : Dashboard → Operation → Bool) : Dashboard → List Operation → Bool
  | _, [] => true
  | s, op :: ops => check s op && throughout check (s.step op) ops

/-- The run of `ops` from `s` comes to `op` in the state `t`. -/
inductive Meets : Dashboard → List Operation → Dashboard → Operation → Prop where
  | here (s : Dashboard) (op : Operation) (ops : List Operation) : Meets s (op :: ops) s op
  | later {s t : Dashboard} {op : Operation} {ops : List Operation} (first : Operation)
      (h : Meets (s.step first) ops t op) : Meets s (first :: ops) t op

/-- Some operations lead from `s` to `t`. -/
def Leads (s t : Dashboard) : Prop := ∃ ops, s.run ops = t

/-- **A state that the dashboard can come into.** -/
def Reachable (s : Dashboard) : Prop := Leads {} s

theorem run_append (s : Dashboard) (ops more : List Operation) :
    s.run (ops ++ more) = (s.run ops).run more := List.foldl_append

theorem Leads.refl (s : Dashboard) : Leads s s := ⟨[], rfl⟩

theorem leads_step (s : Dashboard) (op : Operation) : Leads s (s.step op) := ⟨[op], rfl⟩

theorem Leads.trans {s t u : Dashboard} (h : Leads s t) (h' : Leads t u) : Leads s u := by
  obtain ⟨ops, rfl⟩ := h
  obtain ⟨more, rfl⟩ := h'
  exact ⟨ops ++ more, s.run_append ops more⟩

theorem Reachable.run {s : Dashboard} (h : Reachable s) (ops : List Operation) : Reachable (s.run ops) :=
  Leads.trans h ⟨ops, rfl⟩

theorem Reachable.step {s : Dashboard} (h : Reachable s) (op : Operation) : Reachable (s.step op) :=
  h.run [op]

theorem Meets.mem {s t : Dashboard} {op : Operation} {ops : List Operation} (h : Meets s ops t op) :
    op ∈ ops := by
  induction h with
  | here s op ops => exact List.mem_cons_self
  | later first _ ih => exact List.mem_cons_of_mem first ih

theorem Meets.leads {s t : Dashboard} {op : Operation} {ops : List Operation} (h : Meets s ops t op) :
    Leads s t := by
  induction h with
  | here s op ops => exact Leads.refl s
  | later first _ ih => exact (leads_step _ first).trans ih

theorem Meets.check {s t : Dashboard} {op : Operation} {ops : List Operation} (h : Meets s ops t op)
    {check : Dashboard → Operation → Bool} (hcheck : throughout check s ops = true) : check t op = true := by
  induction h with
  | here s op ops => exact (Bool.and_eq_true_iff.mp hcheck).1
  | later first _ ih => exact ih (Bool.and_eq_true_iff.mp hcheck).2

/-- **What a step keeps, a run keeps.** -/
theorem run_invariant {P : Dashboard → Prop} (hstep : ∀ s op, P s → P (s.step op)) {s : Dashboard} (h : P s)
    (ops : List Operation) : P (s.run ops) := by
  induction ops generalizing s with
  | nil => exact h
  | cons op ops ih => exact ih (hstep s op h)

/-! ## What has held since -/

/-- **`P` has come about, and `Q` has held since**: some entry satisfies `P`, given the entries before it, and all
    entries after it satisfy `Q`. -/
def Since {α : Type} (P : List α → α → Prop) (Q : α → Prop) (entries : List α) : Prop :=
  ∃ before entry after, entries = before ++ entry :: after ∧ P before entry ∧ ∀ later ∈ after, Q later

theorem not_since_nil {α : Type} {P : List α → α → Prop} {Q : α → Prop} : ¬ Since P Q [] := by
  rintro ⟨before, entry, after, hsplit, _⟩
  exact absurd hsplit.symm (List.append_ne_nil_of_right_ne_nil _ (List.cons_ne_nil _ _))

/-- **One entry more**: either `P` comes about with it, or `Q` holds of it and `P` has come about before. -/
theorem since_concat_iff {α : Type} {P : List α → α → Prop} {Q : α → Prop} {entries : List α} {last : α} :
    Since P Q (entries ++ [last]) ↔ P entries last ∨ Q last ∧ Since P Q entries := by
  constructor
  · rintro ⟨before, entry, after, hsplit, hentry, hafter⟩
    rcases List.eq_nil_or_concat after with rfl | ⟨between, final, rfl⟩
    · obtain ⟨rfl, hlast⟩ := List.append_inj' hsplit rfl
      obtain rfl := List.head_eq_of_cons_eq hlast
      exact .inl hentry
    · rw [List.concat_eq_append] at hsplit hafter
      rw [← List.cons_append, ← List.append_assoc] at hsplit
      obtain ⟨rfl, hlast⟩ := List.append_inj' hsplit rfl
      obtain rfl := List.head_eq_of_cons_eq hlast
      refine .inr ⟨hafter _ (List.mem_append_right _ List.mem_cons_self), before, entry, between, rfl, hentry, ?_⟩
      exact fun later hlater => hafter later (List.mem_append_left _ hlater)
  · rintro (hlast | ⟨hlast, before, entry, after, rfl, hentry, hafter⟩)
    · exact ⟨entries, last, [], rfl, hlast, fun _ h => absurd h List.not_mem_nil⟩
    · refine ⟨before, entry, after ++ [last], List.append_assoc .., hentry, fun later hlater => ?_⟩
      rcases List.mem_append.mp hlater with hold | hnew
      · exact hafter later hold
      · exact List.mem_singleton.mp hnew ▸ hlast

/-- A dashboard with two repositories, for instances of what is said of runs. -/
def sampleBoard : Dashboard :=
  run {} [.poll "12:00:00" (.updated (Catalog.ofList
    [("api", { tags := ["v1", "v2"], pinnedTagValue := "v0", autoDeploy := true }),
     ("web", { tags := ["r-1"], pinnedTag := "r-0", pinnedTagValue := "r-0" })]))]

theorem sampleBoard_reachable : Reachable sampleBoard := ⟨_, rfl⟩

end Dashboard
end DeployBoard
