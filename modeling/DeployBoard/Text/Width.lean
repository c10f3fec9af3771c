import DeployBoard.Text.WidthTable

/-!
# `Text.Width` — how many terminal columns a text takes

A character takes no column, one or two (`charWidth?`; a control character has no width of its own). A text
mostly takes the sum of its characters, a control character counting one, but a few sequences are one shape:

* a line break of two characters takes one column;
* an emoji followed by the emoji selector, by a skin tone, or joined to another emoji takes two columns, and a
  character shown as an emoji takes one column when the text selector follows it;
* a Lam joined to an Alef takes one column, as do two Lisu tone letters.

Text that is cut to a number of columns (`truncate`) is cut by characters, each as wide as it is by itself.
-/

namespace DeployBoard.Text

/-- Control characters have no width. -/
def isControl (c : Char) : Bool := c.toNat < 0x20 || (0x7F ≤ c.toNat && c.toNat < 0xA0)

/-- **Width of a character**: `none` for a control character. -/
def charWidth? (c : Char) : Option Nat :=
  if isControl c then none
  else if c.toNat < 0xA0 then some 1
  else if c = '\u2D7F' then some 1
  else if c = '\u115F' ∨ c = '\u17A4' then some 2
  else if c = '\u17D8' then some 3
  else if graphemeExtend.has c || defaultIgnorable.has c || silent.has c then some 0
  else if wide.has c then some 2
  else some 1

/-- Width of a character where a control character takes no column. -/
def charWidth (c : Char) : Nat := (charWidth? c).getD 0

/-! ## Sequences -/

/-- What the text so far leaves open: the last shape, as far as the next character may change its width. -/
inductive OpenShape where
  /-- Nothing that the next character could join. -/
  | closed
  | carriageReturn
  /-- A character with an emoji or text form, as `width` columns. -/
  | emoji (c : Char) (width : Nat)
  /-- An emoji shape of two columns followed by a joiner. -/
  | emojiJoined
  /-- A Lam, with any marks after it. -/
  | lam
  /-- A Lisu tone letter that another may follow. -/
  | lisuTone

/-- The shape that `c` opens when it joins nothing before it. -/
def openedBy (c : Char) : OpenShape :=
  if c = '\r' then .carriageReturn
  else if joiningLam.has c then .lam
  else if 0xA4F8 ≤ c.toNat ∧ c.toNat ≤ 0xA4FB then .lisuTone
  else if 0x80 ≤ c.toNat ∧ emoji.has c ∨ '0' ≤ c ∧ c ≤ '9' ∨ c = '#' ∨ c = '*' then
    .emoji c ((charWidth? c).getD 1)
  else .closed

/-- One more character: the width that it adds (which may be negative, when it narrows the shape before it) and
    what is open afterwards. -/
def extendShape (shape : OpenShape) (c : Char) : Int × OpenShape :=
  let own : Int := ((charWidth? c).getD 1 : Nat)
  match shape with
  | .carriageReturn => if c = '\n' then (0, .closed) else (own, openedBy c)
  | .lam =>
    if joiningAlef.has c then (0, .closed)
    else if own = 0 then (0, .lam)
    else (own, openedBy c)
  | .lisuTone =>
    if 0xA4FC ≤ c.toNat ∧ c.toNat ≤ 0xA4FD then (0, .closed)
    else if own = 0 then (0, .lisuTone)
    else (own, openedBy c)
  | .emoji base w =>
    if c = '\uFE0F' then ((2 : Int) - w, .emoji base 2)
    else if c = '\uFE0E' then
      if emojiPresentation.has base then ((1 : Int) - w, .closed) else (0, .closed)
    else if 0x1F3FB ≤ c.toNat ∧ c.toNat ≤ 0x1F3FF ∧ emojiModifierBase.has base then
      ((2 : Int) - w, .emoji base 2)
    else if c = '\u200D' ∧ w = 2 then (0, .emojiJoined)
    else (own, openedBy c)
  | .emojiJoined =>
    if emojiPresentation.has c then (0, .emoji c 2)
    else if emoji.has c ∧ 0x80 ≤ c.toNat then (own, .emoji c ((charWidth? c).getD 1))
    else (own, openedBy c)
  | .closed => (own, openedBy c)

/-- The width that `cs` adds after an open shape. -/
def widthFrom (shape : OpenShape) : List Char → Int
  | [] => 0
  | c :: cs => let (w, next) := extendShape shape c; w + widthFrom next cs

/-- **Width of a text in columns.** -/
def charsWidth (cs : List Char) : Nat := (widthFrom .closed cs).toNat

/-- **Width of a text in columns.** -/
def width (s : String) : Nat := charsWidth s.toList

/-! ## Cutting to a width

Cutting takes each character by itself. How wide a character is differs between terminals, so that is left open here
(`width`); what is cut for the screen is cut by `charWidth`. -/

section Cutting

variable (width : Char → Nat)

/-- The characters of `cs` up to the first that does not fit into `room` columns. -/
def takeColumns (room : Nat) : List Char → List Char
  | [] => []
  | c :: cs => if width c ≤ room then c :: takeColumns (room - width c) cs else []

/-- **`s` cut to `columns` columns**: characters are kept, from the left, while they fit. No column keeps no
    character, not even one without a width. -/
def truncateWith (s : String) (columns : Nat) : String :=
  if columns = 0 then "" else String.ofList (takeColumns width columns s.toList)

/-- Sum of the widths of the characters. -/
def columnsOf (cs : List Char) : Nat := cs.foldr (fun c columns => width c + columns) 0

@[simp] theorem columnsOf_nil : columnsOf width [] = 0 := rfl

@[simp] theorem columnsOf_cons (c : Char) (cs : List Char) :
    columnsOf width (c :: cs) = width c + columnsOf width cs := by
  rfl

/-- What is kept fits. -/
theorem columnsOf_takeColumns_le (room : Nat) (cs : List Char) :
    columnsOf width (takeColumns width room cs) ≤ room := by
  induction cs generalizing room with
  | nil => simp [takeColumns]
  | cons c cs ih =>
    unfold takeColumns
    split
    · have := ih (room - width c)
      simp; omega
    · simp

/-- What is kept is a first part of the text. -/
theorem takeColumns_prefix (room : Nat) (cs : List Char) : takeColumns width room cs <+: cs := by
  induction cs generalizing room with
  | nil => simp [takeColumns]
  | cons c cs ih =>
    unfold takeColumns
    split
    · simpa using ih _
    · simp

end Cutting

/-- **`s` cut to `columns` columns of the screen.** -/
def truncate (s : String) (columns : Nat) : String := truncateWith charWidth s columns

end DeployBoard.Text
