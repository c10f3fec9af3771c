import DeployBoard.Proofs.Dashboard.Run

/-!
# `Proofs.Dashboard.Step` — what an operation does

`Stepped` says once what each operation can do to a dashboard, with the guard under which it does it, and `stepped_step`
that every operation does one of these things. What an operation means for a part of the dashboard is then told
case by case: for the index and the commands under way, for the displayed index, for the cursor, for the pickers,
and here for the query (`step_query`).
-/

namespace DeployBoard
namespace Dashboard

/-- **The query that an operation makes**, if it is about the query. -/
def Operation.queryOf? (s : Dashboard) : Operation → Option Query
  | .setFreeText text => some (s.query.setFreeText text)
  | .addTerm term => some (s.query.addTerm term).1
  | .removeTerm term => some (s.query.removeTerm term).1
  | .popTerm => some s.query.popTerm.1
  | .clearQuery => some s.query.clear
  | _ => none

/-- **Whose picker an operation is about**, if it is about one. -/
def Operation.pickerOf? (s : Dashboard) : Operation → Option String
  | .cycleTag _ => s.selectedName?
  | .selectTag repo _ => some repo
  | .setTagInput repo _ => some repo
  | _ => none

/-- **The operation finds nothing to do**: no repository or command that it is about, or the query as it would have
    it. -/
def Operation.Idles (s : Dashboard) : Operation → Prop
  | .cycleTag _ => s.selected? = none
  | .setTagInput repo _ => s.index.get? repo = none
  | .begin command => s.index.get? command.repo = none
  | .finish id _ => s.pending.find? (·.id = id) = none
  | op => op.queryOf? s = some s.query

/-- **What an operation can do**, guards included. -/
inductive Stepped (s : Dashboard) : Operation → Dashboard → Prop where
  | idle (op : Operation) (hidle : op.Idles s) : Stepped s op s
  | requeried (op : Operation) (query : Query) (hquery : op.queryOf? s = some query) :
      Stepped s op (refilter { s with query })
  | polled (now : String) (index : Index) : Stepped s (.poll now (.updated index)) (s.applyPoll now index)
  | pollFailed (now : String) (error : ClientError) : Stepped s (.poll now (.failed error)) (s.applyPollError error)
  | moved (delta : Int) (cursor : Nat) (hlisted : s.display.isEmpty = false) (hcursor : cursor < s.display.size) :
      Stepped s (.moveCursor delta) { s with cursor, anchor := s.display.names[cursor]? }
  /-- There is no row to move to. -/
  | unmoved (delta : Int) (hempty : s.display.isEmpty = true) : Stepped s (.moveCursor delta) { s with cursor := 0 }
  | repicked (op : Operation) (repo : String) (f : TagPicker → TagPicker) (hrepo : op.pickerOf? s = some repo) :
      Stepped s op { s with pickers := s.pickers.modify repo f }
  | begun (command : Command) (previous : Record) (hprevious : s.index.get? command.repo = some previous) :
      Stepped s (.begin command) (s.beginCommand command).1
  | accepted (id : Nat) (p : PendingCommand) (notice : Option String)
      (hfind : s.pending.find? (·.id = id) = some p) :
      Stepped s (.finish id none) { s with pending := s.pending.filter (·.id ≠ id), notice }
  | withdrawn (id : Nat) (p : PendingCommand) (e : ClientError) (message : String)
      (hfind : s.pending.find? (·.id = id) = some p) (hfound : s.index.get? p.command.repo = some p.optimistic) :
      Stepped s (.finish id (some e))
        { refilter
            { s with
              pending := s.pending.filter (·.id ≠ id)
              index := s.index.insert p.command.repo p.previous } with
          errors := s.errors.insert p.command.repo message
          notice := none }
  | overtaken (id : Nat) (p : PendingCommand) (e : ClientError) (message : String)
      (hfind : s.pending.find? (·.id = id) = some p) (hother : s.index.get? p.command.repo ≠ some p.optimistic) :
      Stepped s (.finish id (some e))
        { s with
          pending := s.pending.filter (·.id ≠ id)
          errors := s.errors.insert p.command.repo message
          notice := none }

variable {s t : Dashboard} {op : Operation}

/-! ## Operations one by one -/

theorem stepped_moveCursor (s : Dashboard) (delta : Int) : Stepped s (.moveCursor delta) (s.moveCursor delta) := by
  unfold moveCursor
  cases hempty : s.display.isEmpty with
  | true => exact .unmoved delta hempty
  | false =>
      have hsize : 0 < s.display.size := Catalog.isEmpty_eq_false_iff_size.mp hempty
      refine .moved delta _ hempty ?_
      show (max 0 (min ((s.cursor : Int) + delta) ((s.display.size : Int) - 1))).toNat < s.display.size
      omega

theorem stepped_cycleTag (s : Dashboard) (delta : Int) : Stepped s (.cycleTag delta) (s.cycleTag delta) := by
  unfold cycleTag
  cases hselected : s.selected? with
  | none => exact .idle _ hselected
  | some entry =>
      obtain ⟨name, record⟩ := entry
      refine .repicked _ name (fun p => p.cycle record.tags delta) ?_
      show s.selected?.map (·.1) = some name
      rw [hselected, Option.map_some]

theorem stepped_beginCommand (s : Dashboard) (command : Command) :
    Stepped s (.begin command) (s.beginCommand command).1 := by
  cases hprevious : s.index.get? command.repo with
  | none =>
      have hsame : (s.beginCommand command).1 = s := by
        unfold beginCommand
        rw [hprevious]
      rw [hsame]
      exact .idle _ hprevious
  | some previous => exact .begun command previous hprevious

theorem stepped_finishCommand (s : Dashboard) (id : Nat) (error : Option ClientError) :
    Stepped s (.finish id error) (s.finishCommand id error).1 := by
  unfold finishCommand revert
  cases hfind : s.pending.find? (·.id = id) with
  | none => exact .idle _ hfind
  | some p =>
      cases error with
      | none => exact .accepted id p _ hfind
      | some e =>
          simp only
          split
          · rename_i hfound
            rw [refilter_errors]
            exact .withdrawn id p e _ hfind hfound
          · rename_i hother
            exact .overtaken id p e _ hfind hother

/-- **Every operation does one of these.** -/
theorem stepped_step (s : Dashboard) (op : Operation) : Stepped s op (s.step op) := by
  cases op with
  | setFreeText text =>
      show Stepped s _ (s.setFreeText text)
      unfold setFreeText
      split
      · rename_i hsame
        exact .idle _ (hsame ▸ rfl)
      · exact .requeried _ _ rfl
  | addTerm term =>
      show Stepped s _ (s.addTerm term).1
      unfold addTerm
      simp only
      split
      · exact .requeried _ _ rfl
      · rename_i hknown
        exact .idle _ (congrArg some (Query.addTerm_of_not_added hknown))
  | removeTerm term =>
      show Stepped s _ (s.removeTerm term).1
      unfold removeTerm
      simp only
      split
      · exact .requeried _ _ rfl
      · rename_i hunknown
        exact .idle _ (congrArg some (Query.removeTerm_of_not_removed hunknown))
  | popTerm =>
      show Stepped s _ s.popTerm.1
      unfold popTerm
      simp only
      split
      · exact .requeried _ _ rfl
      · rename_i hnone
        exact .idle _ (congrArg some (Query.popTerm_of_none hnone))
  | clearQuery => exact .requeried _ _ rfl
  | poll now event =>
      cases event with
      | updated index => exact .polled now index
      | failed error => exact .pollFailed now error
  | moveCursor delta => exact stepped_moveCursor s delta
  | cycleTag delta => exact stepped_cycleTag s delta
  | selectTag repo tag => exact .repicked _ repo (fun p => p.select tag) rfl
  | setTagInput repo text =>
      show Stepped s _ (s.setTagInput repo text)
      cases hrecord : s.index.get? repo with
      | none => rw [setTagInput_of_unknown hrecord]; exact .idle _ hrecord
      | some record => rw [setTagInput_of_known hrecord]; exact .repicked _ repo _ rfl
  | begin command => exact stepped_beginCommand s command
  | finish id error => exact stepped_finishCommand s id error

/-! ## The query -/

/-- An operation that finds nothing to do leaves the query that it makes, if it makes one. -/
theorem Operation.Idles.query_eq (h : op.Idles s) : (op.queryOf? s).getD s.query = s.query := by
  cases op with
  | setFreeText | addTerm | removeTerm | popTerm | clearQuery =>
      have hquery : Operation.queryOf? s _ = some s.query := h
      rw [hquery, Option.getD_some]
  | poll | moveCursor | cycleTag | selectTag | setTagInput | begin | finish => rfl

/-- An operation about a picker makes no query. -/
theorem queryOf?_of_pickerOf? {repo : String} (h : op.pickerOf? s = some repo) : op.queryOf? s = none := by
  cases op with
  | cycleTag | selectTag | setTagInput => rfl
  | setFreeText | addTerm | removeTerm | popTerm | clearQuery | poll | moveCursor | begin | finish => cases h

theorem Stepped.query_eq (h : Stepped s op t) : t.query = (op.queryOf? s).getD s.query := by
  cases h with
  | idle _ hidle => exact hidle.query_eq.symm
  | requeried _ query hquery => rw [refilter_query, hquery, Option.getD_some]
  | polled => exact refilter_query _
  | pollFailed => rfl
  | moved => rfl
  | unmoved => rfl
  | repicked _ _ _ hrepo => rw [queryOf?_of_pickerOf? hrepo, Option.getD_none]
  | begun command previous hprevious =>
      unfold beginCommand
      rw [hprevious]
      exact refilter_query _
  | accepted => rfl
  | withdrawn => exact refilter_query _
  | overtaken => rfl

/-- **The query is the one that the operation makes**, or else stays. -/
theorem step_query (s : Dashboard) (op : Operation) : (s.step op).query = (op.queryOf? s).getD s.query :=
  (stepped_step s op).query_eq

end Dashboard
end DeployBoard
