import DeployBoard.Proofs.Dashboard.Step

/-!
# `Proofs.Dashboard.Cursor` — the cursor follows its repository

Where the cursor is, is stored twice: `cursor` is a row of the list, and `anchor` the name of a repository. An
operation can do three things to them (`refocus_step`): it leaves the list and both of them alone, it moves the
cursor along the list, or it shows a new list and looks for the anchor there.

While something is listed, the two agree (`Anchored`). The anchor outlives a list that is empty, however often
and however long, and so `cursor_follows_name`: as long as a repository is listed or nothing is, the cursor
comes back to it.
-/

namespace DeployBoard
namespace Dashboard

/-- A move of the cursor. -/
def Operation.movesCursor : Operation → Bool
  | .moveCursor _ => true
  | _ => false

/-- The list holds `name` or nothing at all, and the cursor is moved only while it holds nothing. -/
def staysWith (name : String) (s : Dashboard) (op : Operation) : Bool :=
  (s.display.contains name || s.display.isEmpty) && (!op.movesCursor || s.display.isEmpty)

theorem selectedName_eq (s : Dashboard) : s.selectedName? = s.display.names[s.cursor]? := by
  unfold selectedName? selected? Catalog.names
  exact (List.getElem?_map ..).symm

/-! ## A new list -/

variable {s t : Dashboard} {display : Index} {name : String}

/-- A new list that holds the anchor: the cursor goes there. -/
theorem withDisplay_found (hanchor : s.anchor = some name) (hname : display.contains name = true) :
    ∃ i, display.names[i]? = some name ∧ s.withDisplay display = { s with display, cursor := i } := by
  rw [← Catalog.position?_isSome] at hname
  obtain ⟨i, hi⟩ := Option.isSome_iff_exists.mp hname
  refine ⟨i, Catalog.getElem?_names_of_position hi, ?_⟩
  unfold withDisplay
  rw [hanchor, Option.bind_some, hi]

/-- A new list without the anchor: the cursor stays in its row, or goes to the last one, and takes the repository
    there, if there is one. -/
theorem withDisplay_lost (hlost : ∀ n, s.anchor = some n → display.contains n = false) :
    s.withDisplay display =
      { s with
        display
        cursor := min s.cursor (display.size - 1)
        anchor := display.names[min s.cursor (display.size - 1)]?.or s.anchor } := by
  have hposition : s.anchor.bind display.position? = none := by
    cases hanchor : s.anchor with
    | none => rfl
    | some n =>
        have hnot := hlost n hanchor
        rw [← Catalog.position?_isSome] at hnot
        exact Option.not_isSome_iff_eq_none.mp (Bool.not_eq_true _ ▸ hnot)
  have hcursor : (if s.cursor ≥ display.size then display.size - 1 else s.cursor) =
      min s.cursor (display.size - 1) := by
    split <;> omega
  unfold withDisplay
  rw [hposition]
  simp only [hcursor]

/-! ## What an operation does to the cursor -/

/-- **What an operation can do** to the list and the cursor. -/
inductive Refocus (s : Dashboard) (op : Operation) (t : Dashboard) : Prop where
  | kept (hdisplay : t.display = s.display) (hcursor : t.cursor = s.cursor) (hanchor : t.anchor = s.anchor)
  | relisted (display : Index) (hdisplay : t.display = display)
      (hcursor : t.cursor = (s.withDisplay display).cursor)
      (hanchor : t.anchor = (s.withDisplay display).anchor)
  | moved (hmove : op.movesCursor = true) (hdisplay : t.display = s.display)
      (hlisted : s.display.isEmpty = false) (hcursor : t.cursor < s.display.size)
      (hanchor : t.anchor = s.display.names[t.cursor]?)
  | reset (hdisplay : t.display = s.display) (hempty : s.display.isEmpty = true) (hcursor : t.cursor = 0)
      (hanchor : t.anchor = s.anchor)

/-- Where a new list puts the cursor depends on the cursor and the anchor alone. -/
theorem withDisplay_congr (hcursor : t.cursor = s.cursor) (hanchor : t.anchor = s.anchor) (display : Index) :
    (t.withDisplay display).cursor = (s.withDisplay display).cursor ∧
      (t.withDisplay display).anchor = (s.withDisplay display).anchor := by
  unfold withDisplay
  rw [hanchor, hcursor]
  split <;> exact ⟨rfl, rfl⟩

theorem refocus_refilter {op : Operation} (u : Dashboard) (hcursor : u.cursor = s.cursor)
    (hanchor : u.anchor = s.anchor) : Refocus s op u.refilter :=
  .relisted _ (refilter_display u) (withDisplay_congr hcursor hanchor _).1 (withDisplay_congr hcursor hanchor _).2

theorem Stepped.refocus {op : Operation} (h : Stepped s op t) : Refocus s op t := by
  cases h with
  | idle => exact .kept rfl rfl rfl
  | requeried => exact refocus_refilter _ rfl rfl
  | polled => exact refocus_refilter _ rfl rfl
  | pollFailed => exact .kept rfl rfl rfl
  | moved delta cursor hlisted hcursor => exact .moved rfl rfl hlisted hcursor rfl
  | unmoved delta hempty => exact .reset rfl hempty rfl rfl
  | repicked => exact .kept rfl rfl rfl
  | begun command previous hprevious =>
      unfold beginCommand
      rw [hprevious]
      exact refocus_refilter _ rfl rfl
  | accepted => exact .kept rfl rfl rfl
  | withdrawn id p e message hfind hfound =>
      -- The record goes back first; what is written after it concerns messages only.
      have hback : Refocus s (.finish id (some e)) (refilter { s with
          pending := s.pending.filter (·.id ≠ id)
          index := s.index.insert p.command.repo p.previous }) := refocus_refilter _ rfl rfl
      cases hback with
      | kept hdisplay hcursor hanchor => exact .kept hdisplay hcursor hanchor
      | relisted display hdisplay hcursor hanchor => exact .relisted display hdisplay hcursor hanchor
      | moved hmove _ _ _ _ => cases hmove
      | reset hdisplay hempty hcursor hanchor => exact .reset hdisplay hempty hcursor hanchor
  | overtaken => exact .kept rfl rfl rfl

/-- **Every operation does one of these.** -/
theorem refocus_step (s : Dashboard) (op : Operation) : Refocus s op (s.step op) := (stepped_step s op).refocus

/-! ## The cursor and its anchor -/

/-- **The cursor is inside the list, and the anchor is the repository under it.** With nothing listed the cursor
    is at the top, and nothing is said of the anchor. -/
structure Anchored (s : Dashboard) : Prop where
  cursor_lt : s.display.isEmpty = false → s.cursor < s.display.size
  cursor_eq_zero : s.display.isEmpty = true → s.cursor = 0
  anchor_eq : s.display.isEmpty = false → s.anchor = s.display.names[s.cursor]?

theorem anchored_start : Anchored {} where
  cursor_lt h := absurd h (by decide)
  cursor_eq_zero _ := rfl
  anchor_eq h := absurd h (by decide)

/-- A new list leaves the cursor and the anchor agreeing, wherever they were. -/
theorem anchored_withDisplay (s : Dashboard) (display : Index) : Anchored (s.withDisplay display) := by
  by_cases hfound : ∃ n, s.anchor = some n ∧ display.contains n = true
  · obtain ⟨n, hanchor, hn⟩ := hfound
    obtain ⟨i, hi, heq⟩ := withDisplay_found hanchor hn
    have hlt : i < display.size := by
      rw [← Catalog.length_names]
      exact (List.getElem?_eq_some_iff.mp hi).1
    rw [heq]
    refine ⟨fun _ => hlt, fun hempty => ?_, fun _ => hanchor.trans hi.symm⟩
    have hnone : display.size = 0 := Catalog.isEmpty_iff_size.mp hempty
    show i = 0
    omega
  · have hlost : ∀ n, s.anchor = some n → display.contains n = false := by
      intro n hanchor
      cases hn : display.contains n with
      | false => rfl
      | true => exact absurd ⟨n, hanchor, hn⟩ hfound
    rw [withDisplay_lost hlost]
    refine ⟨fun hlisted => ?_, fun hempty => ?_, fun hlisted => ?_⟩
    · have hsize : 0 < display.size := Catalog.isEmpty_eq_false_iff_size.mp hlisted
      show min s.cursor (display.size - 1) < display.size
      omega
    · have hnone : display.size = 0 := Catalog.isEmpty_iff_size.mp hempty
      show min s.cursor (display.size - 1) = 0
      omega
    · have hsize : 0 < display.size := Catalog.isEmpty_eq_false_iff_size.mp hlisted
      have hlt : min s.cursor (display.size - 1) < display.names.length := by
        rw [Catalog.length_names]
        omega
      show display.names[min s.cursor (display.size - 1)]?.or s.anchor =
        display.names[min s.cursor (display.size - 1)]?
      rw [List.getElem?_eq_getElem hlt, Option.some_or]

theorem Anchored.congr (hs : Anchored s) (hdisplay : t.display = s.display) (hcursor : t.cursor = s.cursor)
    (hanchor : t.anchor = s.anchor) : Anchored t where
  cursor_lt := by rw [hdisplay, hcursor]; exact hs.cursor_lt
  cursor_eq_zero := by rw [hdisplay, hcursor]; exact hs.cursor_eq_zero
  anchor_eq := by rw [hdisplay, hcursor, hanchor]; exact hs.anchor_eq

theorem withDisplay_display (s : Dashboard) (display : Index) : (s.withDisplay display).display = display := by
  obtain ⟨_, _, h⟩ := s.withDisplay_eq display
  rw [h]

theorem Refocus.anchored {op : Operation} (h : Refocus s op t) (hs : Anchored s) : Anchored t := by
  cases h with
  | kept hdisplay hcursor hanchor => exact hs.congr hdisplay hcursor hanchor
  | relisted display hdisplay hcursor hanchor =>
      refine (anchored_withDisplay s display).congr ?_ hcursor hanchor
      rw [hdisplay, withDisplay_display]
  | moved _ hdisplay hlisted hcursor hanchor =>
      refine ⟨fun _ => hdisplay ▸ hcursor, fun hempty => ?_, fun _ => hdisplay ▸ hanchor⟩
      rw [hdisplay, hlisted] at hempty
      cases hempty
  | reset hdisplay hempty hcursor _ =>
      refine ⟨fun hlisted => ?_, fun _ => hcursor, fun hlisted => ?_⟩
      · rw [hdisplay, hempty] at hlisted; cases hlisted
      · rw [hdisplay, hempty] at hlisted; cases hlisted

theorem Reachable.anchored (h : Reachable s) : Anchored s := by
  obtain ⟨ops, rfl⟩ := h
  exact run_invariant (fun s op hs => (refocus_step s op).anchored hs) anchored_start ops

/-- The repository under the cursor is the anchor, if anything is listed. -/
theorem Anchored.selectedName_eq_anchor (hs : Anchored s) (hlisted : s.display.isEmpty = false) :
    s.selectedName? = s.anchor := by
  rw [selectedName_eq, hs.anchor_eq hlisted]

theorem isEmpty_eq_false_of_contains (h : s.display.contains name = true) : s.display.isEmpty = false :=
  Catalog.isEmpty_eq_false_iff_size.mpr (Catalog.size_pos_of_contains h)

/-! ## The anchor along a run -/

/-- **The anchor is kept** by an operation after which it is listed or nothing is, unless the cursor is moved
    in a list that has rows. -/
theorem Refocus.keeps_anchor {op : Operation} (h : Refocus s op t) (hanchor : s.anchor = some name)
    (hmove : op.movesCursor = true → s.display.isEmpty = true)
    (hlist : t.display.contains name = true ∨ t.display.isEmpty = true) : t.anchor = some name := by
  cases h with
  | kept _ _ hkept => rw [hkept, hanchor]
  | reset _ _ _ hkept => rw [hkept, hanchor]
  | moved hmoves _ hlisted _ _ =>
      rw [hmove hmoves] at hlisted
      cases hlisted
  | relisted display hdisplay _ hfound =>
      rw [hfound]
      rw [hdisplay] at hlist
      by_cases hname : display.contains name = true
      · obtain ⟨i, _, heq⟩ := withDisplay_found hanchor hname
        rw [heq]
        exact hanchor
      · -- Only an empty list is left, and that has no row to take another anchor from.
        have hempty : display.isEmpty = true := hlist.resolve_left hname
        have hlost : ∀ n, s.anchor = some n → display.contains n = false := by
          intro n hn
          obtain rfl : name = n := Option.some.inj (hanchor.symm.trans hn)
          exact Bool.not_eq_true _ ▸ hname
        have hnone : display.names = [] := by
          rw [← List.length_eq_zero_iff, Catalog.length_names]
          exact Catalog.isEmpty_iff_size.mp hempty
        rw [withDisplay_lost hlost, hnone]
        exact hanchor

/-- **The anchor is given up** when a new list has rows and none of them is its own: the cursor stays in its row or
    goes to the last one, and the repository there is the new anchor. -/
theorem Refocus.gives_up {op : Operation} (h : Refocus s op t) (hanchor : s.anchor = some name)
    (hlisted : t.display.isEmpty = false) (hgone : t.display.contains name = false)
    (hbefore : s.display.contains name = true ∨ s.display.isEmpty = true) :
    t.cursor = min s.cursor (t.display.size - 1) := by
  -- A list that stays as it was either holds `name` still or is empty still.
  have hsame : t.display ≠ s.display := by
    intro hdisplay
    rw [hdisplay] at hlisted hgone
    rw [hlisted, hgone] at hbefore
    rcases hbefore with h | h <;> cases h
  cases h with
  | kept hdisplay _ _ => exact absurd hdisplay hsame
  | reset hdisplay _ _ _ => exact absurd hdisplay hsame
  | moved _ hdisplay _ _ _ => exact absurd hdisplay hsame
  | relisted display hdisplay hcursor _ =>
      have hlost : ∀ n, s.anchor = some n → display.contains n = false := by
        intro n hn
        obtain rfl : name = n := Option.some.inj (hanchor.symm.trans hn)
        exact hdisplay ▸ hgone
      rw [hcursor, withDisplay_lost hlost, hdisplay]

theorem Meets.reachable {op : Operation} {ops : List Operation} (h : Meets s ops t op) (hs : Reachable s) :
    Reachable t := hs.trans h.leads

/-- What an operation may be that stays with a repository, and in which state. -/
theorem staysWith_iff {op : Operation} :
    staysWith name s op = true ↔
      (s.display.contains name = true ∨ s.display.isEmpty = true) ∧
        (op.movesCursor = true → s.display.isEmpty = true) := by
  unfold staysWith
  cases op.movesCursor <;> simp

/-- Along a run that stays with a repository the anchor is that repository. -/
theorem anchor_of_meets {op : Operation} {ops : List Operation} (h : Meets s ops t op)
    (hanchor : s.anchor = some name) (hstays : throughout (staysWith name) s ops = true) :
    t.anchor = some name := by
  induction h with
  | here s op ops => exact hanchor
  | later first hrest ih =>
      rename_i s t op ops
      have hboth : staysWith name s first = true ∧ throughout (staysWith name) (s.step first) ops = true :=
        Bool.and_eq_true_iff.mp hstays
      refine ih ?_ hboth.2
      -- The next operation of the run finds `name` or nothing in the list.
      have hnext : (s.step first).display.contains name = true ∨ (s.step first).display.isEmpty = true := by
        cases hrest with
        | here _ op rest => exact (staysWith_iff.mp (Bool.and_eq_true_iff.mp hboth.2).1).1
        | later second _ => exact (staysWith_iff.mp (Bool.and_eq_true_iff.mp hboth.2).1).1
      exact (refocus_step s first).keeps_anchor hanchor (staysWith_iff.mp hboth.1).2 hnext

/-- **The cursor follows the repository by name.** In every state that the dashboard can come into, the cursor is
    inside the list, and at the top of an empty one. From a state with `name` selected, let a run stay with
    `name`: whenever the list holds `name`, it is selected; and an operation after which the list has rows, but
    not that of `name`, leaves the cursor in its row or in the last one and takes the repository there for the new
    anchor. -/
theorem cursor_follows_name :
    (∀ s, Reachable s →
      (s.display.isEmpty = false → s.cursor < s.display.size) ∧ (s.display.isEmpty = true → s.cursor = 0)) ∧
    ∀ s name ops, Reachable s → s.selectedName? = some name → throughout (staysWith name) s ops = true →
      ∀ t op, Meets s ops t op →
        ((t.step op).display.contains name = true → (t.step op).selectedName? = some name) ∧
        ((t.step op).display.isEmpty = false → (t.step op).display.contains name = false →
          (t.step op).cursor = min t.cursor ((t.step op).display.size - 1) ∧
            (t.step op).anchor = (t.step op).selectedName? ∧ (t.step op).selectedName?.isSome = true) := by
  refine ⟨fun s hs => ⟨hs.anchored.cursor_lt, hs.anchored.cursor_eq_zero⟩, ?_⟩
  intro s name ops hs hselected hstays t op hmeets
  have hanchor : s.anchor = some name := by
    have hlisted : s.display.isEmpty = false := by
      rw [selectedName_eq] at hselected
      have hname := Catalog.contains_iff_mem_names.mpr (List.mem_of_getElem? hselected)
      exact isEmpty_eq_false_of_contains hname
    rw [← hs.anchored.selectedName_eq_anchor hlisted, hselected]
  have hanchor' := anchor_of_meets hmeets hanchor hstays
  have ht := hmeets.reachable hs
  have hafter := (ht.step op).anchored
  obtain ⟨hlist, hmove⟩ := staysWith_iff.mp (hmeets.check hstays)
  refine ⟨fun hname => ?_, fun hlisted hgone => ⟨?_, ?_, ?_⟩⟩
  · rw [hafter.selectedName_eq_anchor (isEmpty_eq_false_of_contains hname)]
    exact (refocus_step t op).keeps_anchor hanchor' hmove (.inl hname)
  · exact (refocus_step t op).gives_up hanchor' hlisted hgone hlist
  · exact (hafter.selectedName_eq_anchor hlisted).symm
  · have hlt : (t.step op).cursor < (t.step op).display.names.length := by
      rw [Catalog.length_names]
      exact hafter.cursor_lt hlisted
    rw [selectedName_eq, List.getElem?_eq_getElem hlt]
    rfl

/-- From "web" through an empty list, where a key is pressed, to a list with another row before "web", and to one
    without "web". -/
def sampleVisit : List Operation :=
  [.poll "12:00:05" (.updated ∅), .moveCursor 5,
   .poll "12:00:10" (.updated (Catalog.ofList [("api", {}), ("auth", {}), ("web", {})])),
   .poll "12:00:15" (.updated (Catalog.ofList [("api", {}), ("auth", {})]))]

/-- The cursor is back on "web", now in the third row, and then goes to the last row that is left. -/
theorem cursor_returns_after_empty_list :
    throughout (staysWith "web") (sampleBoard.step (.moveCursor 1)) sampleVisit = true ∧
      ((sampleBoard.step (.moveCursor 1)).run (sampleVisit.take 3)).selectedName? = some "web" ∧
      ((sampleBoard.step (.moveCursor 1)).run (sampleVisit.take 3)).cursor = 2 ∧
      ((sampleBoard.step (.moveCursor 1)).run sampleVisit).cursor = 1 ∧
      ((sampleBoard.step (.moveCursor 1)).run sampleVisit).anchor = some "auth" := by
  have hselected : (sampleBoard.step (.moveCursor 1)).selectedName? = some "web" := by decide
  have hstays : throughout (staysWith "web") (sampleBoard.step (.moveCursor 1)) sampleVisit = true := by decide
  have hfollow := cursor_follows_name.2 _ "web" sampleVisit (sampleBoard_reachable.step _) hselected hstays
  have hthird : Meets (sampleBoard.step (.moveCursor 1)) sampleVisit
      ((sampleBoard.step (.moveCursor 1)).run (sampleVisit.take 2)) sampleVisit[2] :=
    .later _ (.later _ (.here _ _ _))
  have hfourth : Meets (sampleBoard.step (.moveCursor 1)) sampleVisit
      ((sampleBoard.step (.moveCursor 1)).run (sampleVisit.take 3)) sampleVisit[3] :=
    .later _ (.later _ (.later _ (.here _ _ _)))
  have hback := (hfollow _ _ hthird).1 (by decide)
  obtain ⟨hcursor, hanchor, _⟩ := (hfollow _ _ hfourth).2 (by decide) (by decide)
  exact ⟨hstays, hback, by decide, hcursor.trans (by decide), hanchor.trans (by decide)⟩

end Dashboard
end DeployBoard
