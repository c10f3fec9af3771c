import DeployBoard.Proofs.TextBox.Places
import DeployBoard.TextBox.Bindings

/-!
# `Proofs.TextBox.Sound` — the cursor is in the text, and edits can be taken back

A text box remembers places and edits: the cursor, the mark of a selection, and two lists of edits that were made in
texts that are gone. A box is **sound** when its places are in its text, and its edits lead, one after the other,
back from the present text and forward to those that were taken back (`Sound`). Undoing and doing again rely on
that: they put the cursor where it was in another text.

Every key keeps a box sound (`Sound.press`), as does emptying its line (`Sound.clearLine`). Whatever a key does
comes down to putting a piece in at the cursor, to taking out what lies between two places in order, and to going to
a place in the text.
-/

namespace DeployBoard
namespace TextBox

/-! ## Edits between texts -/

/-- **The longer text is the shorter one with a piece put in** at `place`, which ends at `stop`. -/
structure Inserts (shorter : List Line) (place : Place) (piece : List Line) (stop : Place) (longer : List Line) :
    Prop where
  within : place.Within shorter
  longer_eq : longer = insertAt shorter place piece
  stop_eq : stop = pieceEnd place piece

/-- **An edit leads from one text to another.** -/
def Edit.Leads (e : Edit) (lines later : List Line) : Prop :=
  if e.inserted then Inserts lines e.before e.piece e.after later
  else Inserts later e.after e.piece e.before lines

variable {e : Edit} {lines later : List Line}

theorem Inserts.stop_within {place stop : Place} {piece : List Line} (h : Inserts lines place piece stop later) :
    stop.Within later := by
  rw [h.stop_eq, h.longer_eq]
  exact (removeBetween_insertAt h.within piece).2

/-- Taking the edit back leads to the text before, and the cursor is in it. -/
theorem Edit.Leads.undo (h : e.Leads lines later) : e.undo later = lines ∧ e.before.Within lines := by
  unfold Edit.Leads at h
  unfold Edit.undo
  split at h
  · rename_i hinserted
    rw [if_pos hinserted, h.longer_eq]
    exact ⟨(removeBetween_insertAt h.within e.piece).1, h.within⟩
  · rename_i hremoved
    rw [if_neg hremoved]
    exact ⟨h.longer_eq.symm, h.stop_within⟩

/-- Doing the edit again leads to the text after it, and the cursor is in that. -/
theorem Edit.Leads.redo (h : e.Leads lines later) : e.redo lines = later ∧ e.after.Within later := by
  unfold Edit.Leads at h
  unfold Edit.redo
  split at h
  · rename_i hinserted
    rw [if_pos hinserted]
    exact ⟨h.longer_eq.symm, h.stop_within⟩
  · rename_i hremoved
    rw [if_neg hremoved, h.longer_eq]
    exact ⟨(removeBetween_insertAt h.within e.piece).1, h.within⟩

/-- The edits, newest first, lead to the text from earlier ones. -/
def Undoable : List Edit → List Line → Prop
  | [], _ => True
  | e :: rest, lines => ∃ earlier, e.Leads earlier lines ∧ Undoable rest earlier

/-- The edits, oldest first, lead from the text to later ones. -/
def Redoable : List Edit → List Line → Prop
  | [], _ => True
  | e :: rest, lines => ∃ later, e.Leads lines later ∧ Redoable rest later

/-- The oldest edit can be forgotten. -/
theorem Undoable.dropLast {es : List Edit} (h : Undoable es lines) : Undoable es.dropLast lines := by
  induction es generalizing lines with
  | nil => exact h
  | cons e rest ih =>
      cases rest with
      | nil => trivial
      | cons next rest =>
          obtain ⟨earlier, hlead, hrest⟩ := h
          exact ⟨earlier, hlead, ih hrest⟩

/-! ## Sound boxes -/

/-- **The places of the box are in its text, and its edits lead to it and on from it.** -/
structure Sound (b : TextBox) : Prop where
  cursor : b.cursor.Within b.lines
  mark : ∀ place, b.mark = some place → place.Within b.lines
  undoable : Undoable b.done b.lines
  redoable : Redoable b.undone b.lines

variable {b : TextBox}

theorem sound_empty : Sound {} where
  cursor := ⟨Nat.zero_lt_one, Nat.le_refl _⟩
  mark _ h := by cases h
  undoable := trivial
  redoable := trivial

/-- What is kept for pasting and how much of the text is shown do not matter. -/
theorem Sound.congr {b' : TextBox} (hb : Sound b) (hlines : b'.lines = b.lines) (hcursor : b'.cursor = b.cursor)
    (hmark : b'.mark = b.mark) (hdone : b'.done = b.done) (hundone : b'.undone = b.undone) : Sound b' where
  cursor := by rw [hlines, hcursor]; exact hb.cursor
  mark := by rw [hlines, hmark]; exact hb.mark
  undoable := by rw [hlines, hdone]; exact hb.undoable
  redoable := by rw [hlines, hundone]; exact hb.redoable

theorem Sound.withViewport (hb : Sound b) (viewport : Viewport) : Sound { b with viewport } :=
  hb.congr rfl rfl rfl rfl rfl

theorem Sound.deselect (hb : Sound b) : Sound b.deselect where
  cursor := hb.cursor
  mark _ h := by cases h
  undoable := hb.undoable
  redoable := hb.redoable

/-- Remembering the edit that leads from the text of a sound box to the present one. -/
theorem Sound.remember {after : TextBox} (hb : Sound b) (hlead : e.Leads b.lines after.lines)
    (hdone : after.done = b.done) (hcursor : after.cursor = e.after) (hmark : after.mark = none) :
    Sound (after.remember e) where
  cursor := hcursor ▸ hlead.redo.2
  mark place h := by
    have hnone : (after.remember e).mark = none := hmark
    rw [hnone] at h
    cases h
  undoable := by
    refine ⟨b.lines, hlead, ?_⟩
    rw [hdone]
    split
    · exact hb.undoable.dropLast
    · exact hb.undoable
  redoable := trivial

theorem Sound.insertPiece (hb : Sound b) (hmark : b.mark = none) (piece : List Line) :
    Sound (b.insertPiece piece) := by
  refine hb.remember ?_ rfl rfl hmark
  exact ⟨hb.cursor, rfl, rfl⟩

/-- **Taking out what lies between two places in order.** -/
theorem Sound.removeRange (hb : Sound b) (hmark : b.mark = none) {first last : Place}
    (hfirst : first.Within b.lines) (hlast : last.Within b.lines) (hle : first.Le last) :
    Sound (b.removeRange first last) := by
  refine hb.remember ?_ rfl rfl hmark
  obtain ⟨hwithin, hlines, hend⟩ := insertAt_textBetween hfirst hlast hle
  exact ⟨hwithin, hlines.symm, hend.symm⟩

theorem Sound.undo (hb : Sound b) : Sound b.undo := by
  unfold TextBox.undo
  cases hdone : b.done with
  | nil => exact hb
  | cons e rest =>
      have hundoable := hb.undoable
      rw [hdone] at hundoable
      -- The text comes back to the one that the edit led from; there the edit is the first to be done again.
      obtain ⟨earlier, hlead, hrest⟩ := hundoable
      obtain ⟨hlines, hcursor⟩ := hlead.undo
      refine ⟨?_, fun _ h => (by cases h), ?_, ?_⟩
      · show e.before.Within (e.undo b.lines)
        rw [hlines]
        exact hcursor
      · show Undoable rest (e.undo b.lines)
        rw [hlines]
        exact hrest
      · show Redoable (e :: b.undone) (e.undo b.lines)
        rw [hlines]
        exact ⟨b.lines, hlead, hb.redoable⟩

theorem Sound.redo (hb : Sound b) : Sound b.redo := by
  unfold TextBox.redo
  cases hundone : b.undone with
  | nil => exact hb
  | cons e rest =>
      have hredoable := hb.redoable
      rw [hundone] at hredoable
      obtain ⟨later, hlead, hrest⟩ := hredoable
      obtain ⟨hlines, hcursor⟩ := hlead.redo
      refine ⟨?_, fun _ h => (by cases h), ?_, ?_⟩
      · show e.after.Within (e.redo b.lines)
        rw [hlines]
        exact hcursor
      · show Undoable (e :: b.done) (e.redo b.lines)
        rw [hlines]
        exact ⟨b.lines, hlead, hb.undoable⟩
      · show Redoable rest (e.redo b.lines)
        rw [hlines]
        exact hrest

/-! ## The selection -/

/-- The selected range is in the text and in order. -/
theorem Sound.selection (hb : Sound b) {first last : Place} (h : b.selection? = some (first, last)) :
    first.Within b.lines ∧ last.Within b.lines ∧ first.Le last := by
  unfold selection? at h
  cases hmark : b.mark with
  | none => rw [hmark] at h; cases h
  | some mark =>
      rw [hmark, Option.bind_some] at h
      have hwithin := hb.mark mark hmark
      split at h
      · rename_i hbefore
        cases h
        exact ⟨hwithin, hb.cursor, Place.le_of_before hbefore⟩
      · split at h
        · rename_i hbefore
          cases h
          exact ⟨hb.cursor, hwithin, Place.le_of_before hbefore⟩
        · cases h

theorem Sound.removeSelection (hb : Sound b) {after : TextBox} (h : b.removeSelection? = some after) :
    Sound after ∧ after.mark = none := by
  obtain ⟨⟨first, last⟩, hselection, rfl⟩ := Option.map_eq_some_iff.mp h
  obtain ⟨hfirst, hlast, hle⟩ := hb.selection hselection
  exact ⟨hb.deselect.removeRange rfl hfirst hlast hle, rfl⟩

theorem Sound.replaceable (hb : Sound b) : Sound b.replaceable ∧ b.replaceable.mark = none := by
  unfold TextBox.replaceable
  cases h : b.removeSelection? with
  | none => exact ⟨hb.deselect, rfl⟩
  | some after => exact hb.removeSelection h

/-- A deletion of the selected text, or else of what a deletion without a selection deletes. -/
theorem Sound.selectionOr (hb : Sound b) {delete : TextBox → TextBox}
    (hdelete : ∀ b, Sound b → b.mark = none → Sound (delete b)) : Sound (b.selectionOr delete) := by
  unfold TextBox.selectionOr
  cases h : b.removeSelection? with
  | none => exact hdelete _ hb.deselect rfl
  | some after => exact (hb.removeSelection h).1

theorem Sound.cut (hb : Sound b) : Sound b.cut := by
  unfold TextBox.cut
  split
  · exact hb.deselect
  · rename_i first last hselection
    obtain ⟨hfirst, hlast, hle⟩ := hb.selection hselection
    exact (hb.deselect.removeRange rfl hfirst hlast hle).congr rfl rfl rfl rfl rfl

theorem Sound.copy (hb : Sound b) : Sound b.copy := by
  unfold TextBox.copy
  split
  · exact hb.deselect
  · exact hb.deselect.congr rfl rfl rfl rfl rfl

/-! ## Insertion -/

theorem Sound.insertSome (hb : Sound b) (hmark : b.mark = none) (piece : List Line) :
    Sound (b.insertSome piece) := by
  unfold TextBox.insertSome
  split
  · exact hb
  · exact hb.insertPiece hmark piece

theorem Sound.insertText (hb : Sound b) (text : String) : Sound (b.insertText text) :=
  hb.replaceable.1.insertSome hb.replaceable.2 _

/-! ## Places that edits and motions go to -/

theorem rowEnd_within {row : Nat} (h : row < lines.length) : (rowEnd lines row).Within lines := ⟨h, Nat.le_refl _⟩

theorem rowStart_within {row : Nat} (h : row < lines.length) : Place.Within ⟨row, 0⟩ lines := ⟨h, Nat.zero_le _⟩

theorem fit_within {row : Nat} (h : row < lines.length) (column : Nat) : (fit lines row column).Within lines :=
  ⟨h, Nat.min_le_right _ _⟩

/-- A word begins at a later column of the line. -/
theorem wordStartFrom_bounds {last : CharKind} {column found : Nat} {cs : List Char}
    (h : wordStartFrom last column cs = some found) : column ≤ found ∧ found < column + cs.length := by
  induction cs generalizing last column with
  | nil => cases h
  | cons c cs ih =>
      unfold wordStartFrom at h
      simp only at h
      rw [List.length_cons]
      split at h
      · cases h
        omega
      · have hrest := ih h
        omega

/-- A word ends at a later column of the line. -/
theorem wordEndFrom_bounds {last : CharKind} {column found : Nat} {cs : List Char}
    (h : wordEndFrom last column cs = some found) : column ≤ found ∧ found < column + cs.length := by
  induction cs generalizing last column with
  | nil => cases h
  | cons c cs ih =>
      unfold wordEndFrom at h
      simp only at h
      rw [List.length_cons]
      split at h
      · cases h
        omega
      · have hrest := ih h
        omega

/-- Going back, a word begins at an earlier column. -/
theorem wordStartBackFrom_le {last : CharKind} {column found : Nat} {cs : List Char}
    (h : wordStartBackFrom last column cs = some found) : found ≤ column := by
  induction cs generalizing last column with
  | nil =>
      unfold wordStartBackFrom at h
      split at h
      · cases h
      · cases h
        exact Nat.zero_le _
  | cons c cs ih =>
      unfold wordStartBackFrom at h
      simp only at h
      split at h
      · cases h
        exact Nat.le_refl _
      · exact Nat.le_trans (ih h) (Nat.sub_le _ _)

variable {line : Line} {column found : Nat}

theorem nextWordStart_le (h : nextWordStart? line column = some found) : found ≤ line.length := by
  unfold nextWordStart? at h
  split at h
  · cases h
  · rename_i c cs hrest
    have hlength : (line.drop column).length = cs.length + 1 := by rw [hrest]; rfl
    rw [List.length_drop] at hlength
    have hbounds := wordStartFrom_bounds h
    omega

theorem nextWordEnd_bounds (h : nextWordEnd? line column = some found) :
    column ≤ found ∧ found ≤ line.length := by
  unfold nextWordEnd? at h
  split at h
  · cases h
  · rename_i c cs hrest
    have hlength : (line.drop column).length = cs.length + 1 := by rw [hrest]; rfl
    rw [List.length_drop] at hlength
    have hbounds := wordEndFrom_bounds h
    omega

theorem lastWordStart_le (h : lastWordStart? line column = some found) : found ≤ column := by
  unfold lastWordStart? at h
  split at h
  · cases h
  · exact Nat.le_trans (wordStartBackFrom_le h) (Nat.sub_le _ _)

/-! ## Deletion -/

/-- Taking out a part of the cursor's line. -/
theorem Sound.removePart (hb : Sound b) (hmark : b.mark = none) {first last : Nat} (hle : first ≤ last)
    (hlast : last ≤ b.line.length) : Sound (b.removePart first last) := by
  have hrow := hb.cursor.1
  have hfirst : Place.Within ⟨b.cursor.row, first⟩ b.lines := ⟨hrow, Nat.le_trans hle hlast⟩
  have hlast : Place.Within ⟨b.cursor.row, last⟩ b.lines := ⟨hrow, hlast⟩
  have hremoved := hb.removeRange hmark hfirst hlast (.inr ⟨rfl, hle⟩)
  exact hremoved.congr rfl rfl rfl rfl rfl

/-- The cursor is in its line. -/
theorem Sound.column_le (hb : Sound b) : b.cursor.column ≤ b.line.length := hb.cursor.2

theorem Sound.joinBefore (hb : Sound b) (hmark : b.mark = none) : Sound b.joinBefore := by
  have hrow := hb.cursor.1
  unfold TextBox.joinBefore
  split
  · exact hb
  · refine hb.removeRange hmark (rowEnd_within (by omega)) (rowStart_within hrow) (.inl ?_)
    show b.cursor.row - 1 < b.cursor.row
    omega

theorem Sound.deleteBefore (hb : Sound b) (hmark : b.mark = none) : Sound b.deleteBefore := by
  have hcolumn := hb.column_le
  unfold TextBox.deleteBefore
  split
  · exact hb.joinBefore hmark
  · refine hb.removeRange hmark ⟨hb.cursor.1, ?_⟩ hb.cursor (.inr ⟨rfl, Nat.sub_le _ _⟩)
    exact Nat.le_trans (Nat.sub_le _ _) hcolumn

theorem Sound.deleteAfter (hb : Sound b) (hmark : b.mark = none) : Sound b.deleteAfter := by
  unfold TextBox.deleteAfter
  split
  · rename_i hcolumn
    exact hb.removeRange hmark hb.cursor ⟨hb.cursor.1, hcolumn⟩ (.inr ⟨rfl, Nat.le_succ _⟩)
  · split
    · rename_i hrow
      refine hb.removeRange hmark (rowEnd_within hb.cursor.1) (rowStart_within hrow) (.inl ?_)
      exact Nat.lt_succ_self _
    · exact hb

theorem Sound.deleteToStart (hb : Sound b) (hmark : b.mark = none) : Sound b.deleteToStart := by
  unfold TextBox.deleteToStart
  split
  · exact hb.joinBefore hmark
  · exact hb.removePart hmark (Nat.zero_le _) hb.column_le

theorem Sound.deleteToEnd (hb : Sound b) (hmark : b.mark = none) : Sound b.deleteToEnd := by
  unfold TextBox.deleteToEnd
  split
  · exact hb.removePart hmark hb.column_le (Nat.le_refl _)
  · exact hb.deleteAfter hmark

theorem Sound.deleteWordBefore (hb : Sound b) (hmark : b.mark = none) : Sound b.deleteWordBefore := by
  unfold TextBox.deleteWordBefore
  split
  · rename_i found hfound
    exact hb.removePart hmark (lastWordStart_le hfound) hb.column_le
  · exact hb.deleteToStart hmark

theorem Sound.deleteWordAfter (hb : Sound b) (hmark : b.mark = none) : Sound b.deleteWordAfter := by
  unfold TextBox.deleteWordAfter
  split
  · rename_i found hfound
    exact hb.removePart hmark (nextWordEnd_bounds hfound).1 (nextWordEnd_bounds hfound).2
  · exact hb.deleteToEnd hmark

/-- **Emptying the cursor's line keeps a box sound.** -/
theorem Sound.clearLine (hb : Sound b) : Sound b.clearLine :=
  (hb.selectionOr fun _ h hmark => h.deleteToStart hmark).selectionOr fun _ h hmark => h.deleteToEnd hmark

/-! ## Motion -/

/-- The row at which a paragraph begins is one of the rows looked at. -/
theorem paragraphStartFrom_lt {row found : Nat} {afterEmpty : Bool} {below : List Line}
    (h : paragraphStartFrom row afterEmpty below = some found) : found < row + below.length := by
  induction below generalizing row afterEmpty with
  | nil => cases h
  | cons line rest ih =>
      unfold paragraphStartFrom at h
      rw [List.length_cons]
      split at h
      · cases h
        omega
      · have hrest := ih h
        omega

theorem paragraphBackFrom_le {row found : Nat} {beforeEmpty : Bool} {above : List Line}
    (h : paragraphBackFrom row beforeEmpty above = some found) : found ≤ row := by
  induction above generalizing row beforeEmpty with
  | nil => cases h
  | cons line rest ih =>
      unfold paragraphBackFrom at h
      split at h
      · cases h
        exact Nat.le_refl _
      · exact Nat.le_trans (ih h) (Nat.sub_le _ _)

/-- **A motion leads to a place in the text.** -/
theorem Sound.target (hb : Sound b) {m : Motion} {place : Place} (h : m.target? b = some place) :
    place.Within b.lines := by
  obtain ⟨hrow, hcolumn⟩ := hb.cursor
  have hcolumn : b.cursor.column ≤ b.line.length := hcolumn
  have habove : b.cursor.row - 1 < b.lines.length := by omega
  have hlast : b.lines.length - 1 < b.lines.length := by omega
  -- A motion stays in the row, at a column up to its end, or goes to a row that there is.
  unfold Motion.target? at h
  cases m with
  | forward =>
      simp only at h
      split at h
      · rename_i hlt
        cases h
        exact ⟨hrow, hlt⟩
      · split at h
        · cases h
          exact rowStart_within (by omega)
        · cases h
  | back =>
      simp only at h
      split at h
      · cases h
        exact ⟨hrow, Nat.le_trans (Nat.sub_le _ _) hcolumn⟩
      · split at h
        · cases h
          exact rowEnd_within habove
        · cases h
  | up =>
      simp only at h
      split at h
      · cases h
        exact fit_within habove _
      · cases h
  | down =>
      simp only at h
      split at h
      · cases h
        exact fit_within (by omega) _
      · cases h
  | head => cases h; exact rowStart_within hrow
  | «end» => cases h; exact rowEnd_within hrow
  | top => cases h; exact fit_within (by omega) _
  | bottom => cases h; exact fit_within hlast _
  | wordForward =>
      simp only at h
      split at h
      · rename_i found hfound
        cases h
        exact ⟨hrow, nextWordStart_le hfound⟩
      · cases h
        split
        · exact rowStart_within (by omega)
        · exact rowEnd_within hrow
  | wordBack =>
      simp only at h
      split at h
      · rename_i found hfound
        cases h
        exact ⟨hrow, Nat.le_trans (lastWordStart_le hfound) hcolumn⟩
      · cases h
        split
        · exact rowEnd_within habove
        · exact rowStart_within hrow
  | paragraphForward =>
      simp only at h
      cases h
      refine fit_within ?_ _
      cases hnext : paragraphStartFrom (b.cursor.row + 1) b.line.isEmpty (b.lines.drop (b.cursor.row + 1)) with
      | none => exact hlast
      | some found =>
          have hfound := paragraphStartFrom_lt hnext
          rw [List.length_drop] at hfound
          rw [Option.getD_some]
          omega
  | paragraphBack =>
      simp only at h
      split at h
      · cases h
      · cases h
        refine fit_within ?_ _
        cases hnext : paragraphBackFrom (b.cursor.row - 1) (lineAt b.lines (b.cursor.row - 1)).isEmpty
            (b.lines.take (b.cursor.row - 1)).reverse with
        | none => rw [Option.getD_none]; omega
        | some found =>
            have hfound := paragraphBackFrom_le hnext
            rw [Option.getD_some]
            omega
  | intoView =>
      simp only at h
      cases h
      exact fit_within (Nat.lt_of_le_of_lt (Nat.min_le_right _ _) hlast) _

theorem Sound.move (hb : Sound b) (m : Motion) (selecting : Bool) : Sound (b.move m selecting) := by
  unfold TextBox.move
  split
  · exact hb
  · rename_i place htarget
    refine ⟨hb.target htarget, fun mark hmark => ?_, hb.undoable, hb.redoable⟩
    -- A selection begins at its old mark, or where the cursor was.
    cases selecting with
    | false => cases hmark
    | true =>
        replace hmark : b.mark.or (some b.cursor) = some mark := hmark
        cases hold : b.mark with
        | none =>
            rw [hold] at hmark
            cases hmark
            exact hb.cursor
        | some old =>
            rw [hold] at hmark
            cases hmark
            exact hb.mark _ hold

/-! ## Keys -/

theorem Sound.perform (hb : Sound b) (shift : Bool) (deed : Deed) : Sound (b.perform shift deed) := by
  cases deed with
  | insert c => exact hb.replaceable.1.insertPiece hb.replaceable.2 _
  | breakLine => exact hb.replaceable.1.insertPiece hb.replaceable.2 _
  | deleteBefore => exact hb.selectionOr fun _ h hmark => h.deleteBefore hmark
  | deleteAfter => exact hb.selectionOr fun _ h hmark => h.deleteAfter hmark
  | deleteToStart => exact hb.selectionOr fun _ h hmark => h.deleteToStart hmark
  | deleteToEnd => exact hb.selectionOr fun _ h hmark => h.deleteToEnd hmark
  | deleteWordBefore => exact hb.selectionOr fun _ h hmark => h.deleteWordBefore hmark
  | deleteWordAfter => exact hb.selectionOr fun _ h hmark => h.deleteWordAfter hmark
  | undo => exact hb.undo
  | redo => exact hb.redo
  | cut => exact hb.cut
  | copy => exact hb.copy
  | paste => exact hb.replaceable.1.insertSome hb.replaceable.2 _
  | move m => exact hb.move m shift
  | pageDown =>
      show Sound (b.pageDown shift)
      exact (hb.withViewport _).move .intoView shift
  | pageUp =>
      show Sound (b.pageUp shift)
      exact (hb.withViewport _).move .intoView shift

/-- **Every key keeps a box sound.** -/
theorem Sound.press (hb : Sound b) (k : KeyPress) : Sound (b.press k) := by
  unfold TextBox.press
  split
  · exact hb
  · exact hb.perform k.shift _

end TextBox
end DeployBoard
