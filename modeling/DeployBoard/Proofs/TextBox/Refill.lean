import DeployBoard.Proofs.TextBox.Clear

/-!
# `Proofs.TextBox.Refill` — what a text box shows when a text is put in

A box shows its lines on one line, `joined` by spaces. A piece that is put in at the cursor stands between what is
before the cursor and what is after it, so the box then shows the three one after the other
(`joined_insertAt`). A text is cut at its line feeds for that, and comes back as it was exactly when it had no
line break in it (`joined_splitLines_iff`).

So a box that is emptied by `clearLine` and filled again shows the text that it was filled with, if two deletions
empty it and the text is `Unbroken`. If just one of the two holds, it shows something else
(`Sound.refill_iff_unbroken`, `Sound.refill_iff_twoDeletionsEmpty`).
-/

namespace DeployBoard
namespace TextBox

/-! ## Lines on one line -/

/-- Lines as they are shown: a space stands for each line break. -/
def joined (lines : List Line) : List Char := List.intercalate [' '] lines

theorem text_toList (b : TextBox) : b.text.toList = joined b.lines := String.toList_ofList

@[simp] theorem joined_nil : joined [] = [] := rfl

@[simp] theorem joined_singleton (line : Line) : joined [line] = line := List.intercalate_singleton

theorem joined_cons (line : Line) {rest : List Line} (h : rest ≠ []) :
    joined (line :: rest) = line ++ ' ' :: joined rest := by
  unfold joined
  rw [List.intercalate_cons_of_ne_nil h, List.append_assoc]
  rfl

/-- **A text that is cut inside a line** is shown as one part after the other. -/
theorem joined_split (above below : List Line) (left right : Line) :
    joined (above ++ (left ++ right) :: below) = joined (above ++ [left]) ++ joined (right :: below) := by
  induction above with
  | nil =>
      simp only [List.nil_append, joined_singleton]
      cases below with
      | nil => simp
      | cons next below =>
          rw [joined_cons _ (List.cons_ne_nil next below), joined_cons _ (List.cons_ne_nil next below),
            List.append_assoc]
  | cons line above ih =>
      simp only [List.cons_append]
      rw [joined_cons line (by simp), joined_cons line (by simp), ih, List.append_assoc]
      rfl

variable {above below : List Line} {left right : Line} {b : TextBox}

/-- **A piece stands between what is before the place and what is after it.** -/
theorem joined_insertAt (above below : List Line) (left right : Line) (piece : List Line) :
    joined (insertAt (above ++ (left ++ right) :: below) ⟨above.length, left.length⟩ piece) =
      joined (above ++ [left]) ++ joined piece ++ joined (right :: below) := by
  rw [insertAt_split]
  rcases piece_cases piece with rfl | ⟨line, rfl⟩ | ⟨first, middle, last, rfl⟩
  · have hnone : pieceBetween left right [] = [left ++ right] := by simp [pieceBetween, pieceThen]
    rw [hnone, List.append_assoc, List.singleton_append, joined_split, joined_nil, List.append_nil]
  · rw [pieceBetween_singleton, List.append_assoc, List.singleton_append, List.append_assoc, joined_split]
    have hline : joined ((line ++ right) :: below) = joined [line] ++ joined (right :: below) :=
      joined_split [] below line right
    rw [hline, List.append_assoc]
  · -- The first line of the piece goes to the line before, and its last to the line after.
    have hshape : above ++ pieceBetween left right (first :: (middle ++ [last])) ++ below =
        above ++ (left ++ first) :: (middle ++ (last ++ right) :: below) := by
      rw [pieceBetween_cons_concat]
      simp
    have hpiece : joined (first :: (middle ++ (last ++ right) :: below)) =
        joined (first :: (middle ++ [last])) ++ joined (right :: below) :=
      joined_split (first :: middle) below last right
    rw [hshape, joined_split, hpiece, List.append_assoc]

/-! ## A text as lines -/

/-- The end of a line that was read in reverse: a carriage return belongs to the break. -/
def lineRead (line : Line) : Line := (if line.head? = some '\r' then line.tail else line).reverse

theorem mem_of_mem_lineRead {c : Char} {line : Line} (h : c ∈ lineRead line) : c ∈ line := by
  unfold lineRead at h
  split at h
  · exact List.mem_of_mem_tail (List.mem_reverse.mp h)
  · exact List.mem_reverse.mp h

theorem splitLines_nil (line : Line) : splitLines line [] = [lineRead line] := rfl

theorem splitLines_break (line : Line) (cs : List Char) :
    splitLines line ('\n' :: cs) = lineRead line :: splitLines [] cs := rfl

theorem splitLines_cons {c : Char} (h : c ≠ '\n') (line : Line) (cs : List Char) :
    splitLines line (c :: cs) = splitLines (c :: line) cs := if_neg h

theorem splitLines_ne_nil (line : Line) (cs : List Char) : splitLines line cs ≠ [] := by
  induction cs generalizing line with
  | nil => exact List.cons_ne_nil _ _
  | cons c cs ih =>
      by_cases hbreak : c = '\n'
      · subst hbreak
        exact List.cons_ne_nil _ _
      · rw [splitLines_cons hbreak]
        exact ih (c :: line)

/-- Without a line feed there is one line. -/
theorem splitLines_of_not_mem {cs : List Char} (h : '\n' ∉ cs) (line : Line) :
    splitLines line cs = [lineRead (cs.reverse ++ line)] := by
  induction cs generalizing line with
  | nil => rfl
  | cons c cs ih =>
      rw [List.mem_cons, not_or] at h
      obtain ⟨hc, hcs⟩ := h
      rw [splitLines_cons (Ne.symm hc), ih hcs, List.reverse_cons, List.append_assoc]
      rfl

/-- Every line feed is gone. -/
theorem not_mem_joined_splitLines {line : Line} (h : '\n' ∉ line) (cs : List Char) :
    '\n' ∉ joined (splitLines line cs) := by
  induction cs generalizing line with
  | nil =>
      rw [splitLines_nil, joined_singleton]
      exact fun hmem => h (mem_of_mem_lineRead hmem)
  | cons c cs ih =>
      by_cases hbreak : c = '\n'
      · subst hbreak
        rw [splitLines_break, joined_cons _ (splitLines_ne_nil _ _)]
        intro hmem
        rcases List.mem_append.mp hmem with hline | hrest
        · exact h (mem_of_mem_lineRead hline)
        · rcases List.mem_cons.mp hrest with hspace | hrest
          · exact absurd hspace (by decide)
          · exact ih List.not_mem_nil hrest
      · rw [splitLines_cons hbreak]
        exact ih (fun hmem => (List.mem_cons.mp hmem).elim (Ne.symm hbreak) h)

/-- **The text has no line break**: no line feed, and no carriage return at its end. -/
def Unbroken (text : String) : Prop := '\n' ∉ text.toList ∧ text.toList.getLast? ≠ some '\r'

instance (text : String) : Decidable (Unbroken text) :=
  inferInstanceAs (Decidable ('\n' ∉ text.toList ∧ text.toList.getLast? ≠ some '\r'))

/-- **A text comes back from its lines as it was** exactly when it has no line break. -/
theorem joined_splitLines_iff (text : String) : joined (splitLines [] text.toList) = text.toList ↔ Unbroken text := by
  unfold Unbroken
  generalize text.toList = cs
  by_cases hfeed : '\n' ∈ cs
  · -- A line feed is not shown.
    have hnone := not_mem_joined_splitLines List.not_mem_nil cs
    refine ⟨fun h => ?_, fun h => absurd hfeed h.1⟩
    rw [h] at hnone
    exact absurd hfeed hnone
  · rw [splitLines_of_not_mem hfeed, joined_singleton, List.append_nil]
    unfold lineRead
    rw [List.head?_reverse]
    by_cases hreturn : cs.getLast? = some '\r'
    · -- The carriage return is dropped, and the line is shorter.
      rw [if_pos hreturn]
      refine ⟨fun h => ?_, fun h => absurd hreturn h.2⟩
      have hlength := congrArg List.length h
      have hpos : cs ≠ [] := by
        rintro rfl
        cases hreturn
      have hlt := List.length_pos_iff.mpr hpos
      simp only [List.length_reverse, List.length_tail] at hlength
      omega
    · rw [if_neg hreturn, List.reverse_reverse]
      exact ⟨fun _ => ⟨hfeed, hreturn⟩, fun _ => rfl⟩

/-! ## Filling a box -/

theorem replaceable_of_none (h : b.selection? = none) : b.replaceable = b.deselect := by
  unfold replaceable removeSelection?
  rw [h]
  rfl

/-- **What a box shows when a text is put in**, if nothing is selected. -/
theorem CutAt.insertText_text (hb : CutAt b above left right below) (hnone : b.selection? = none) (text : String) :
    (b.insertText text).text.toList =
      joined (above ++ [left]) ++ joined (splitLines [] text.toList) ++ joined (right :: below) := by
  rw [text_toList]
  unfold insertText insertSome
  rw [replaceable_of_none hnone]
  split
  · -- Of an empty text nothing is put in.
    rename_i hempty
    show joined b.lines = _
    rw [hempty, joined_singleton, List.append_nil, hb.lines, joined_split]
  · show joined (insertAt b.lines b.cursor _) = _
    rw [hb.lines, hb.cursor, joined_insertAt]

/-- A deletion leaves nothing selected. -/
theorem selectionOr_mark {delete : TextBox → TextBox} (h : ∀ b, (delete b).mark = b.mark) (b : TextBox) :
    (b.selectionOr delete).mark = none := by
  cases hselection : b.selection? with
  | some range => rw [selectionOr_of_selection hselection]; rfl
  | none => rw [selectionOr_of_none hselection, h]; rfl

theorem clearLine_mark (b : TextBox) : b.clearLine.mark = none := selectionOr_mark deleteToEnd_mark _

/-- What is shown between two texts is those texts when there is nothing around it. -/
theorem between_eq_iff {as bs cs : List Char} (h : as ++ cs = []) : as ++ bs ++ cs = bs := by
  obtain ⟨rfl, rfl⟩ := List.append_eq_nil_iff.mp h
  rw [List.nil_append, List.append_nil]

/-- **A box that shows nothing** shows the text that is put in just when that has no line break. -/
theorem Sound.insertText_of_empty (hb : Sound b) (hnone : b.selection? = none) (hempty : b.text = "") (text : String) :
    (b.insertText text).text = text ↔ Unbroken text := by
  obtain ⟨above, left, right, below, hcut⟩ := hb.cutAt
  have haround : joined (above ++ [left]) ++ joined (right :: below) = [] := by
    rw [← joined_split, ← hcut.lines, ← text_toList, hempty]
    rfl
  rw [← String.toList_inj, hcut.insertText_text hnone, between_eq_iff haround]
  exact joined_splitLines_iff text

/-- **A text without a line break** is all that a box shows, when it is put in, just when the box showed nothing. -/
theorem Sound.insertText_of_unbroken (hb : Sound b) (hnone : b.selection? = none) {text : String} (h : Unbroken text) :
    (b.insertText text).text = text ↔ b.text = "" := by
  refine ⟨fun hshown => ?_, fun hempty => (hb.insertText_of_empty hnone hempty text).mpr h⟩
  obtain ⟨above, left, right, below, hcut⟩ := hb.cutAt
  rw [← String.toList_inj, hcut.insertText_text hnone, (joined_splitLines_iff text).mpr h] at hshown
  -- What is around the text takes no place.
  have hlength := congrArg List.length hshown
  simp only [List.length_append] at hlength
  have hbefore : joined (above ++ [left]) = [] := List.eq_nil_of_length_eq_zero (by omega)
  have hafter : joined (right :: below) = [] := List.eq_nil_of_length_eq_zero (by omega)
  rw [← String.toList_inj, text_toList, hcut.lines, joined_split, hbefore, hafter]
  rfl

/-- Nothing can be selected in a box with nothing in it. -/
theorem Sound.selection?_of_empty (hb : Sound b) (hempty : b.text = "") : b.selection? = none := by
  have hsome : b.lines ≠ [] := List.ne_nil_of_length_pos (Nat.zero_lt_of_lt hb.cursor.1)
  have hlines : b.lines = [[]] := (text_eq_empty_iff hsome).mp hempty
  -- Both ends of a selection would be the only place there is.
  have honly : ∀ place : Place, place.Within b.lines → place = ⟨0, 0⟩ := by
    rintro ⟨row, column⟩ ⟨hrow, hcolumn⟩
    rw [hlines] at hrow hcolumn
    have hzero : row = 0 := by simpa using hrow
    subst hzero
    have hstart : column = 0 := by simpa [lineAt] using hcolumn
    rw [hstart]
  cases hselection : b.selection? with
  | none => rfl
  | some range =>
      obtain ⟨first, last⟩ := range
      unfold selection? at hselection
      obtain ⟨mark, hmark, hrange⟩ := Option.bind_eq_some_iff.mp hselection
      rw [honly mark (hb.mark mark hmark), honly b.cursor hb.cursor] at hrange
      cases hrange

/-! ## Emptying and filling -/

/-- **An emptied box** shows the text that it is filled with just when that has no line break. -/
theorem Sound.refill_iff_unbroken (hb : Sound b) (hempty : TwoDeletionsEmpty b) (text : String) :
    (b.clearLine.insertText text).text = text ↔ Unbroken text :=
  hb.clearLine.insertText_of_empty (selection?_of_mark (clearLine_mark b))
    (hb.clearLine_text_eq_empty_iff.mpr hempty) text

/-- **A text without a line break** is all that a box shows, filled with it again, just when two deletions empty the
    box. -/
theorem Sound.refill_iff_twoDeletionsEmpty (hb : Sound b) {text : String} (h : Unbroken text) :
    (b.clearLine.insertText text).text = text ↔ TwoDeletionsEmpty b := by
  rw [hb.clearLine.insertText_of_unbroken (selection?_of_mark (clearLine_mark b)) h]
  exact hb.clearLine_text_eq_empty_iff

end TextBox
end DeployBoard
