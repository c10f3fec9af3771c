import DeployBoard.TextBox.Lines

/-!
# `Proofs.TextBox.Places` — cutting a text at a place and putting it together again

A place of a text cuts it in two: the lines above with the beginning of the place's line, and the rest of that
line with the lines below (`Within.split`); two places in order cut it in three (`Within.split_le`). Seen like this,
putting a piece in and taking it out again are exact inverses, in both orders (`removeBetween_insertAt`,
`insertAt_textBetween`), and `pieceEnd` is where the piece ends.
-/

namespace DeployBoard.TextBox

/-- **The place is in the text.** -/
def Place.Within (place : Place) (lines : List Line) : Prop :=
  place.row < lines.length ∧ place.column ≤ (lineAt lines place.row).length

/-- One place is before another, or the same. -/
def Place.Le (a b : Place) : Prop := a.row < b.row ∨ (a.row = b.row ∧ a.column ≤ b.column)

theorem Place.le_of_before {a b : Place} (h : a.before b = true) : a.Le b := by
  simp only [Place.before, Bool.or_eq_true, Bool.and_eq_true, decide_eq_true_eq] at h
  unfold Place.Le
  omega

/-! ## Lines around a place -/

variable {above below : List Line} {left right : Line}

@[simp] theorem lineAt_append_length (above below : List Line) (line : Line) :
    lineAt (above ++ line :: below) above.length = line := by
  unfold lineAt
  simp

theorem Place.within_append (above below : List Line) (left right : Line) :
    Place.Within ⟨above.length, left.length⟩ (above ++ (left ++ right) :: below) := by
  constructor
  · simp
  · rw [lineAt_append_length]
    simp

/-- **A place cuts its text in two.** -/
theorem Place.Within.split {place : Place} {lines : List Line} (h : place.Within lines) :
    ∃ above left right below, lines = above ++ (left ++ right) :: below ∧
      place = ⟨above.length, left.length⟩ := by
  obtain ⟨row, column⟩ := place
  obtain ⟨hrow, hcolumn⟩ := h
  have hline : lineAt lines row = lines[row] := by
    unfold lineAt
    rw [List.getD_eq_getElem?_getD, List.getElem?_eq_getElem hrow, Option.getD_some]
  rw [hline] at hcolumn
  refine ⟨lines.take row, lines[row].take column, lines[row].drop column, lines.drop (row + 1), ?_, ?_⟩
  · rw [List.take_append_drop, List.getElem_cons_drop, List.take_append_drop]
  · rw [List.length_take, List.length_take, Nat.min_eq_left hcolumn, Nat.min_eq_left (Nat.le_of_lt hrow)]

/-! ## Putting in -/

/-- A piece that is not empty is its last line after the others. -/
theorem pieceThen_concat (after last : Line) (first : List Line) :
    pieceThen after (first ++ [last]) = first ++ [last ++ after] := by
  induction first with
  | nil => rfl
  | cons line rest ih =>
      cases rest with
      | nil => rfl
      | cons next rest => exact congrArg (line :: ·) ih

theorem pieceBetween_singleton (before after line : Line) :
    pieceBetween before after [line] = [before ++ line ++ after] := by
  simp [pieceBetween, pieceThen]

theorem pieceBetween_cons_concat (before after first last : Line) (middle : List Line) :
    pieceBetween before after (first :: (middle ++ [last])) =
      (before ++ first) :: (middle ++ [last ++ after]) := by
  unfold pieceBetween
  rw [← List.cons_append, pieceThen_concat]
  rfl

theorem pieceEnd_cons_concat (place : Place) (first last : Line) (middle : List Line) :
    pieceEnd place (first :: (middle ++ [last])) = ⟨place.row + (middle.length + 1), last.length⟩ := by
  have hlast : ((middle ++ [last]).getLastD []).length = last.length := by
    rw [List.getLastD_eq_getLast?, List.getLast?_concat, Option.getD_some]
  have hlength : (middle ++ [last]).length = middle.length + 1 := by simp
  have hend : pieceEnd place (first :: (middle ++ [last])) =
      ⟨place.row + (middle ++ [last]).length, ((middle ++ [last]).getLastD []).length⟩ := by
    cases middle <;> rfl
  rw [hend, hlast, hlength]

/-- A piece has no line, one line, or a first and a last one. -/
theorem piece_cases (piece : List Line) :
    piece = [] ∨ (∃ line, piece = [line]) ∨ ∃ first middle last, piece = first :: (middle ++ [last]) := by
  cases piece with
  | nil => exact .inl rfl
  | cons first rest =>
      rcases List.eq_nil_or_concat rest with rfl | ⟨middle, last, rfl⟩
      · exact .inr (.inl ⟨first, rfl⟩)
      · exact .inr (.inr ⟨first, middle, last, List.concat_eq_append ▸ rfl⟩)

/-- Putting a piece in leaves what is around the place. -/
theorem insertAt_split (above below : List Line) (left right : Line) (piece : List Line) :
    insertAt (above ++ (left ++ right) :: below) ⟨above.length, left.length⟩ piece =
      above ++ pieceBetween left right piece ++ below := by
  unfold insertAt
  simp

/-! ## Taking out -/

/-- Taking out what lies between two places leaves what is before the first and after the second. -/
theorem removeBetween_split {rest right' : Line} {lower above' below' : List Line} {left' : Line}
    (h : above ++ (left ++ rest) :: lower = above' ++ (left' ++ right') :: below') :
    removeBetween (above ++ (left ++ rest) :: lower) ⟨above.length, left.length⟩ ⟨above'.length, left'.length⟩ =
      above ++ (left ++ right') :: below' := by
  have hlast : lineAt (above ++ (left ++ rest) :: lower) above'.length = left' ++ right' := by
    rw [h, lineAt_append_length]
  have hlower : (above ++ (left ++ rest) :: lower).drop (above'.length + 1) = below' := by
    rw [h, ← List.drop_drop, List.drop_left]
    rfl
  unfold removeBetween
  rw [lineAt_append_length, hlast, hlower, List.take_left, List.take_left, List.drop_left, List.append_assoc]
  rfl

/-- **Taking out what was put in** gives the text before, and where the piece ends is a place of the longer text. -/
theorem removeBetween_insertAt {lines : List Line} {place : Place} (h : place.Within lines) (piece : List Line) :
    removeBetween (insertAt lines place piece) place (pieceEnd place piece) = lines ∧
      (pieceEnd place piece).Within (insertAt lines place piece) := by
  obtain ⟨above, left, right, below, rfl, rfl⟩ := h.split
  -- The longer text, cut at the place and cut where the piece ends.
  suffices hcut : ∃ rest lower above' left',
      above ++ pieceBetween left right piece ++ below = above ++ (left ++ rest) :: lower ∧
        above ++ (left ++ rest) :: lower = above' ++ (left' ++ right) :: below ∧
          pieceEnd ⟨above.length, left.length⟩ piece = ⟨above'.length, left'.length⟩ by
    obtain ⟨rest, lower, above', left', hplace, hcut, hend⟩ := hcut
    rw [insertAt_split, hplace, hend]
    refine ⟨removeBetween_split hcut, ?_⟩
    rw [hcut]
    exact Place.within_append above' below left' right
  rcases piece_cases piece with rfl | ⟨line, rfl⟩ | ⟨first, middle, last, rfl⟩
  · exact ⟨right, below, above, left, by simp [pieceBetween, pieceThen], rfl, rfl⟩
  · refine ⟨line ++ right, below, above, left ++ line, ?_, by simp, ?_⟩
    · rw [pieceBetween_singleton]
      simp
    · rw [List.length_append]
      rfl
  · refine ⟨first, middle ++ (last ++ right) :: below, above ++ (left ++ first) :: middle, last, ?_, by simp, ?_⟩
    · rw [pieceBetween_cons_concat]
      simp
    · rw [pieceEnd_cons_concat, List.length_append, List.length_cons]

/-! ## Two places -/

/-- What begins a text further than something else does begins with it. -/
theorem eq_append_of_length_le {α : Type} {as bs xs ys : List α} (h : as ++ xs = bs ++ ys)
    (hle : as.length ≤ bs.length) : ∃ ms, bs = as ++ ms ∧ xs = ms ++ ys := by
  obtain ⟨ms, rfl⟩ : as <+: bs := List.prefix_of_prefix_length_le ⟨xs, h⟩ ⟨ys, rfl⟩ hle
  rw [List.append_assoc] at h
  exact ⟨ms, rfl, List.append_cancel_left h⟩

/-- **Two places in order cut a text in three**: the piece between them is a part of one line, or it goes on in lines
    below. -/
theorem Place.Within.split_le {lines : List Line} {first last : Place} (hfirst : first.Within lines)
    (hlast : last.Within lines) (hle : first.Le last) :
    (∃ above left line right below, lines = above ++ (left ++ (line ++ right)) :: below ∧
      first = ⟨above.length, left.length⟩ ∧ last = ⟨above.length, (left ++ line).length⟩) ∨
    ∃ above left rest middle left' right below,
      lines = above ++ (left ++ rest) :: (middle ++ (left' ++ right) :: below) ∧
        first = ⟨above.length, left.length⟩ ∧
          last = ⟨(above ++ (left ++ rest) :: middle).length, left'.length⟩ := by
  obtain ⟨above, left, rest, lower, rfl, rfl⟩ := hfirst.split
  obtain ⟨above', left', right, below, hcut, rfl⟩ := hlast.split
  have hrows : above.length ≤ above'.length := by
    rcases hle with h | h
    · exact Nat.le_of_lt h
    · exact Nat.le_of_eq h.1
  obtain ⟨middle, rfl, hmiddle⟩ := eq_append_of_length_le hcut hrows
  cases middle with
  | nil =>
      -- Both places are in one line.
      obtain ⟨hline, rfl⟩ := List.cons.inj hmiddle
      have hcolumns : left.length ≤ left'.length := by
        rcases hle with h | h
        · simp at h
        · exact h.2
      obtain ⟨line, rfl, rfl⟩ := eq_append_of_length_le hline hcolumns
      exact .inl ⟨above, left, line, right, lower, rfl, rfl, by rw [List.append_nil]⟩
  | cons line middle =>
      obtain ⟨rfl, rfl⟩ := List.cons.inj hmiddle
      exact .inr ⟨above, left, rest, middle, left', right, below, rfl, rfl, rfl⟩

/-- What lies between two places of a line. -/
theorem textBetween_line (above below : List Line) (left line right : Line) :
    textBetween (above ++ (left ++ (line ++ right)) :: below) ⟨above.length, left.length⟩
      ⟨above.length, (left ++ line).length⟩ = [line] := by
  unfold textBetween
  rw [if_pos rfl, lineAt_append_length, ← List.append_assoc, List.take_left, List.drop_left]

/-- What lies between two places of different lines. -/
theorem textBetween_lines (above middle below : List Line) (left rest left' right : Line) :
    textBetween (above ++ (left ++ rest) :: (middle ++ (left' ++ right) :: below)) ⟨above.length, left.length⟩
      ⟨(above ++ (left ++ rest) :: middle).length, left'.length⟩ = rest :: (middle ++ [left']) := by
  have hcut : above ++ (left ++ rest) :: (middle ++ (left' ++ right) :: below) =
      (above ++ (left ++ rest) :: middle) ++ (left' ++ right) :: below := by simp
  unfold textBetween
  rw [if_neg (by simp), lineAt_append_length, hcut, lineAt_append_length, List.take_left, List.take_left,
    List.drop_left, ← List.drop_drop, List.drop_left]
  rfl

/-- **Two places in order have a piece of text between them**, which can be put in again. -/
theorem insertAt_textBetween {lines : List Line} {first last : Place} (hfirst : first.Within lines)
    (hlast : last.Within lines) (hle : first.Le last) :
    first.Within (removeBetween lines first last) ∧
      insertAt (removeBetween lines first last) first (textBetween lines first last) = lines ∧
        pieceEnd first (textBetween lines first last) = last := by
  rcases hfirst.split_le hlast hle with ⟨above, left, line, right, below, rfl, rfl, rfl⟩ |
    ⟨above, left, rest, middle, left', right, below, rfl, rfl, rfl⟩
  · have hcut : above ++ (left ++ (line ++ right)) :: below = above ++ ((left ++ line) ++ right) :: below := by simp
    rw [removeBetween_split hcut, insertAt_split, textBetween_line, pieceBetween_singleton]
    refine ⟨Place.within_append above below left right, by simp, ?_⟩
    rw [List.length_append]
    rfl
  · have hcut : above ++ (left ++ rest) :: (middle ++ (left' ++ right) :: below) =
        (above ++ (left ++ rest) :: middle) ++ (left' ++ right) :: below := by simp
    rw [removeBetween_split hcut, insertAt_split, textBetween_lines, pieceBetween_cons_concat, pieceEnd_cons_concat]
    refine ⟨Place.within_append above below left right, by simp, ?_⟩
    rw [List.length_append, List.length_cons]

end DeployBoard.TextBox
