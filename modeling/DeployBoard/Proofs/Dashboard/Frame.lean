import DeployBoard.Proofs.Dashboard.Cursor
import DeployBoard.Proofs.Dashboard.Numbers
import DeployBoard.Proofs.Dashboard.Ownership
import DeployBoard.Proofs.Dashboard.Pickers
import DeployBoard.Proofs.Dashboard.Tags

/-!
# `Proofs.Dashboard.Frame` — commands are invisible to search and navigation

To begin or to end a command rewrites the index and finds the displayed index and the cursor again. All the same nobody
who searches or moves about can tell: the records that are written have the tags of the records that they replace, a
search looks at names and tags alone (`tags?_filterTerms_congr`), so the same rows are found, and among the same rows
the cursor finds its anchor where it was (`Anchored.withDisplay_cursor`). `sameView_step` puts this together for one
operation, and `commands_leave_view` adds that no record but that of the command's repository is written.
-/

namespace DeployBoard
namespace Dashboard

/-- The operation begins or ends a command. -/
def Operation.isCommand : Operation → Bool
  | .begin _ | .finish _ _ => true
  | _ => false

/-- The repository of the command that an operation begins or ends. -/
def Operation.repoOf? (s : Dashboard) : Operation → Option String
  | .begin command => some command.repo
  | .finish id _ => (s.pending.find? (·.id = id)).map (·.command.repo)
  | _ => none

/-- **What search and navigation see of a dashboard is the same**: which repositories there are and are listed, with
    which tags, what can be searched for and what is searched for, where the cursor is, and all tag pickers. -/
structure SameView (s t : Dashboard) : Prop where
  names : t.index.names = s.index.names
  listed : t.display.names = s.display.names
  tags : ∀ name, tags? t.index name = tags? s.index name
  shownTags : ∀ name, tags? t.display name = tags? s.display name
  searchTerms : t.searchTerms = s.searchTerms
  query : t.query = s.query
  cursor : t.cursor = s.cursor
  selected : t.selectedName? = s.selectedName?
  pickers : t.pickers = s.pickers

/-- The record of a repository is the same, in the index and in what is displayed. -/
def SameRecord (s t : Dashboard) (name : String) : Prop :=
  t.index.get? name = s.index.get? name ∧ t.display.get? name = s.display.get? name

variable {s t : Dashboard} {op : Operation}

/-- An operation on a command brings no index, moves no cursor, and is about no query and no picker. -/
theorem Operation.of_isCommand (hop : op.isCommand = true) (s : Dashboard) :
    op.bringsIndex = false ∧ op.movesCursor = false ∧ op.queryOf? s = none ∧ op.pickerOf? s = none := by
  cases op with
  | begin | finish => exact ⟨rfl, rfl, rfl, rfl⟩
  | setFreeText | addTerm | removeTerm | popTerm | clearQuery | poll | moveCursor | cycleTag | selectTag
  | setTagInput => cases hop

/-! ## The displayed index -/

/-- What a search keeps of a record's tags is told by the name and the tags. -/
theorem narrow?_tags_congr {a b : Record} (h : a.tags = b.tags) (terms : Terms) (name : String) :
    (a.narrow? terms name).map (·.tags) = (b.narrow? terms name).map (·.tags) := by
  unfold Record.narrow?
  rw [h]
  simp only
  split
  · rfl
  split
  · exact congrArg some h
  · rfl

/-- **A search finds the same repositories and tags** in indexes that have the same. -/
theorem tags?_filterTerms_congr {a b : Index} (h : ∀ name, tags? a name = tags? b name) (terms : Terms)
    (name : String) : tags? (a.filterTerms terms) name = tags? (b.filterTerms terms) name := by
  have hname := h name
  unfold tags? at hname ⊢
  rw [Catalog.get?_filterTerms, Catalog.get?_filterTerms]
  split
  · exact hname
  cases ha : a.get? name with
  | none =>
      rw [ha, Option.map_none, eq_comm, Option.map_eq_none_iff] at hname
      rw [hname]
  | some old =>
      rw [ha, Option.map_some, eq_comm, Option.map_eq_some_iff] at hname
      obtain ⟨new, hb, htags⟩ := hname
      rw [hb]
      exact (narrow?_tags_congr htags terms name).symm

/-! ## The cursor -/

/-- **Among the same rows the cursor stays where it is**: the anchor is in its row, and in an empty list the cursor is at
    the top. -/
theorem Anchored.withDisplay_cursor (hs : Anchored s) {display : Index} (hrows : display.names = s.display.names) :
    (s.withDisplay display).cursor = s.cursor := by
  have hsize : display.size = s.display.size := by
    rw [← Catalog.length_names, hrows, Catalog.length_names]
  cases hempty : s.display.isEmpty with
  | true =>
      have hnone : s.display.size = 0 := Catalog.isEmpty_iff_size.mp hempty
      have hnames : display.names = [] := by
        rw [← List.length_eq_zero_iff, Catalog.length_names]
        omega
      have hlost : ∀ n, s.anchor = some n → display.contains n = false := by
        intro n _
        rw [← Bool.not_eq_true, Catalog.contains_iff_mem_names, hnames]
        exact List.not_mem_nil
      rw [withDisplay_lost hlost]
      show min s.cursor (display.size - 1) = s.cursor
      have hcursor : s.cursor = 0 := hs.cursor_eq_zero hempty
      omega
  | false =>
      have hlt : s.cursor < s.display.names.length := by
        rw [Catalog.length_names]
        exact hs.cursor_lt hempty
      have hanchor : s.anchor = some s.display.names[s.cursor] := by
        rw [hs.anchor_eq hempty, List.getElem?_eq_getElem hlt]
      have hname : display.contains s.display.names[s.cursor] = true := by
        rw [Catalog.contains_iff_mem_names, hrows]
        exact List.getElem_mem hlt
      obtain ⟨i, hi, hfound⟩ := withDisplay_found hanchor hname
      rw [hfound]
      show i = s.cursor
      -- No name is listed twice.
      rw [hrows] at hi
      obtain ⟨hi', hsame⟩ := List.getElem?_eq_some_iff.mp hi
      have hnodup : s.display.names.Nodup := s.display.names_ascending.imp String.ne_of_lt
      exact (hnodup.getElem_inj_iff).mp hsame

/-- An operation that moves no cursor and leaves the rows as they are leaves the cursor in its row. -/
theorem Refocus.cursor_eq (h : Refocus s op t) (hs : Anchored s) (hmove : op.movesCursor = false)
    (hrows : t.display.names = s.display.names) : t.cursor = s.cursor := by
  cases h with
  | kept _ hcursor _ => exact hcursor
  | relisted display hdisplay hcursor _ =>
      rw [hcursor]
      exact hs.withDisplay_cursor (hdisplay ▸ hrows)
  | moved hmoves _ _ _ _ =>
      rw [hmove] at hmoves
      cases hmoves
  | reset _ hempty hcursor _ => rw [hcursor, hs.cursor_eq_zero hempty]

/-! ## Commands -/

/-- **A command leaves the view as it is**, when it begins and when it ends. -/
theorem sameView_step (hs : Reachable s) (hop : op.isCommand = true) : SameView s (s.step op) := by
  obtain ⟨hbrings, hmove, hquery, hpicker⟩ := op.of_isCommand hop s
  have hquery : (s.step op).query = s.query := by rw [step_query, hquery, Option.getD_none]
  have htags : ∀ name, tags? (s.step op).index name = tags? s.index name := tags_step hs.sameTags hbrings
  have hshown : ∀ name, tags? (s.step op).display name = tags? s.display name := by
    intro name
    rw [hs.derived, (hs.step op).derived, hquery]
    exact tags?_filterTerms_congr htags _ name
  have hlisted : (s.step op).display.names = s.display.names := names_congr hshown
  have hcursor : (s.step op).cursor = s.cursor := (refocus_step s op).cursor_eq hs.anchored hmove hlisted
  have hpickers : (s.step op).pickers = s.pickers := by
    cases repick_step s op with
    | kept _ hpickers _ => exact hpickers
    | changed repo f _ hrepo _ _ =>
        rw [hpicker] at hrepo
        cases hrepo
    | polled index hpoll _ _ _ =>
        rw [hbrings] at hpoll
        cases hpoll
  exact
    { names := names_congr htags
      listed := hlisted
      tags := htags
      shownTags := hshown
      searchTerms := searchTerms_step hs.sameTags hbrings
      query := hquery
      cursor := hcursor
      selected := by rw [selectedName_eq, selectedName_eq, hlisted, hcursor]
      pickers := hpickers }

/-- What is brought about by beginning or ending a command writes no record but that of its repository. -/
theorem writeTo?_of_repo_ne (hop : op.isCommand = true) {name : String} (hname : op.repoOf? s ≠ some name) :
    (s.happening? op).bind (Happening.writeTo? name) = none := by
  cases op with
  | begin command =>
      have hrepo : command.repo ≠ name := fun h => hname (congrArg some h)
      cases hprevious : s.index.get? command.repo with
      | none => simp [happening?, hprevious]
      | some previous => simp [happening?, hprevious, Happening.writeTo?, hrepo]
  | finish id error =>
      cases hfind : s.pending.find? (·.id = id) with
      | none => simp [happening?, hfind]
      | some p =>
          have hrepo : p.command.repo ≠ name := by
            intro h
            refine hname ?_
            show (s.pending.find? (·.id = id)).map (·.command.repo) = some name
            rw [hfind, Option.map_some, h]
          cases error with
          | none => simp [happening?, hfind, Happening.writeTo?]
          | some e => simp [happening?, hfind, Happening.writeTo?, hrepo]
  | setFreeText | addTerm | removeTerm | popTerm | clearQuery | poll | moveCursor | cycleTag | selectTag
  | setTagInput => cases hop

/-- **Every other record stays**, in the index and on display. -/
theorem sameRecord_step (hs : Reachable s) (hop : op.isCommand = true) {name : String}
    (hname : op.repoOf? s ≠ some name) : SameRecord s (s.step op) name := by
  have hrecord : (s.step op).index.get? name = s.index.get? name := by
    rw [(transition_step s op).get?_eq name, writeTo?_of_repo_ne hop hname, Option.getD_none]
  refine ⟨hrecord, ?_⟩
  rw [hs.derived, (hs.step op).derived, (sameView_step hs hop).query, Catalog.get?_filterTerms,
    Catalog.get?_filterTerms, hrecord]

/-- **Commands are invisible to search and navigation.** In every state that the dashboard can come into, to begin any
    command, and to end the command under any number with or without an error, leaves the repositories and
    their tags, in the index and on display, the vocabulary, the query, the cursor with the repository under it and all
    tag pickers; and it leaves every record but that of the command's repository. -/
theorem commands_leave_view (hs : Reachable s) :
    (∀ command : Command, SameView s (s.beginCommand command).1 ∧
      ∀ name, name ≠ command.repo → SameRecord s (s.beginCommand command).1 name) ∧
    ∀ (id : Nat) (error : Option ClientError), SameView s (s.finishCommand id error).1 ∧
      ∀ name, (∀ command, (s.finishCommand id error).2 = some command → name ≠ command.repo) →
        SameRecord s (s.finishCommand id error).1 name := by
  refine ⟨fun command => ?_, fun id error => ?_⟩
  · have hop : (Operation.begin command).isCommand = true := rfl
    refine ⟨sameView_step hs hop, fun name hname => ?_⟩
    refine sameRecord_step hs hop fun hrepo => ?_
    exact hname (Option.some.inj hrepo).symm
  · have hop : (Operation.finish id error).isCommand = true := rfl
    refine ⟨sameView_step hs hop, fun name hname => ?_⟩
    refine sameRecord_step hs hop fun hrepo => ?_
    obtain ⟨p, hfind, hrepo⟩ := Option.map_eq_some_iff.mp hrepo
    refine hname p.command ?_ hrepo.symm
    rw [finishCommand_answer, hfind, Option.map_some]

/-- A dashboard with two repositories of three on display, of which the second is selected, and a deployment there under
    way since before the last poll. -/
def sampleWithdrawal : Dashboard :=
  let index : Index := Catalog.ofList
    [("api", { tags := ["v1", "v2"], pinnedTagValue := "v0" }), ("cron", { tags := ["v1"] }), ("web", { tags := ["r-1"] })]
  run {} [.poll "12:00:00" (.updated index), .addTerm "v", .moveCursor 1, .begin ⟨"cron", .deploy "v1"⟩,
    .poll "12:00:05" (.updated (index.insert "cron" { tags := ["v1", "v0"], pinnedTag := "v1", pinnedTagValue := "v1" })),
    .begin ⟨"cron", .setAutoDeploy true⟩]

/-- A failure that takes a switch back rewrites the index, and the selected row stays as it is to look at. -/
theorem withdrawal_leaves_view :
    Reachable sampleWithdrawal ∧ sampleWithdrawal.selectedName? = some "cron" ∧
      (sampleWithdrawal.finishCommand 1 (some .network)).1.index ≠ sampleWithdrawal.index ∧
      SameView sampleWithdrawal (sampleWithdrawal.finishCommand 1 (some .network)).1 := by
  have hs : Reachable sampleWithdrawal := ⟨_, rfl⟩
  exact ⟨hs, by decide +kernel, by decide +kernel, ((commands_leave_view hs).2 1 (some .network)).1⟩

end Dashboard
end DeployBoard
