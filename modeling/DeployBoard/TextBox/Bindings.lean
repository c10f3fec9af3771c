import DeployBoard.Keyboard
import DeployBoard.TextBox.Motion

/-!
# `TextBox.Bindings` — what the keys do in a text box

`bound?` names what a key does, and `TextBox.press` does it. A key that nothing is bound to changes nothing.
-/

namespace DeployBoard

namespace TextBox

/-- **What a key can do.** -/
inductive Deed where
  | insert (c : Char)
  | breakLine
  | deleteBefore | deleteAfter
  | deleteToStart | deleteToEnd
  | deleteWordBefore | deleteWordAfter
  | undo | redo
  | cut | copy | paste
  | move (m : Motion)
  | pageDown | pageUp
  deriving DecidableEq, Repr

/-- The motion that a letter with the control key stands for. -/
def ctrlMotion? : Char → Option Motion
  | 'f' => some .forward
  | 'b' => some .back
  | 'n' => some .down
  | 'p' => some .up
  | 'a' => some .head
  | 'e' => some .end
  | _ => none

/-- What a letter with the control key does. -/
def ctrlDeed? : Char → Option Deed
  | 'm' => some .breakLine
  | 'h' => some .deleteBefore
  | 'd' => some .deleteAfter
  | 'k' => some .deleteToEnd
  | 'j' => some .deleteToStart
  | 'w' => some .deleteWordBefore
  | 'u' => some .undo
  | 'r' => some .redo
  | 'y' => some .paste
  | 'x' => some .cut
  | 'c' => some .copy
  | 'v' => some .pageDown
  | c => (ctrlMotion? c).map .move

/-- What a character with the alt key does. -/
def altDeed? : Char → Option Deed
  | 'h' => some .deleteWordBefore
  | 'd' => some .deleteWordAfter
  | 'v' => some .pageUp
  | 'f' => some (.move .wordForward)
  | 'b' => some (.move .wordBack)
  | '<' => some (.move .top)
  | '>' => some (.move .bottom)
  | ']' => some (.move .paragraphForward)
  | 'n' => some (.move .paragraphForward)
  | '[' => some (.move .paragraphBack)
  | 'p' => some (.move .paragraphBack)
  | _ => none

/-- What a letter with the control key and the alt key does. -/
def ctrlAltDeed? : Char → Option Deed
  | 'b' => some (.move .head)
  | 'f' => some (.move .end)
  | 'p' => some (.move .top)
  | 'n' => some (.move .bottom)
  | _ => none

/-- What an arrow does: alone, with the control key, and with the alt key too. -/
def arrowDeed? (k : KeyPress) (plain withCtrl withBoth : Motion) : Option Deed :=
  match k.ctrl, k.alt with
  | false, false => some (.move plain)
  | true, false => some (.move withCtrl)
  | true, true => some (.move withBoth)
  | false, true => none

/-- **What a key does**, if anything. -/
def bound? (k : KeyPress) : Option Deed :=
  match k.key with
  | .char c =>
    match k.ctrl, k.alt with
    | false, false => some (.insert c)
    | true, false => ctrlDeed? c
    | false, true => altDeed? c
    | true, true => ctrlAltDeed? c
  | .enter => some .breakLine
  | .backspace =>
    match k.ctrl, k.alt with
    | false, false => some .deleteBefore
    | false, true => some .deleteWordBefore
    | _, _ => none
  | .delete =>
    match k.ctrl, k.alt with
    | false, false => some .deleteAfter
    | false, true => some .deleteWordAfter
    | _, _ => none
  | .left => arrowDeed? k .back .wordBack .head
  | .right => arrowDeed? k .forward .wordForward .end
  | .up => arrowDeed? k .up .paragraphBack .top
  | .down => arrowDeed? k .down .paragraphForward .bottom
  | .home => some (.move .head)
  | .end => some (.move .end)
  | .pageDown => some .pageDown
  | .pageUp => some .pageUp
  | _ => none

/-- Keeps the selected text for pasting. -/
def copy (b : TextBox) : TextBox :=
  match b.selection? with
  | none => b.deselect
  | some (first, last) => { b.deselect with removed := textBetween b.lines first last }

/-- **Does it.** A deletion deletes the selected text instead, if some is selected. -/
def perform (b : TextBox) (shift : Bool) : Deed → TextBox
  | .insert c => b.insertChar c
  | .breakLine => b.insertBreak
  | .deleteBefore => b.selectionOr TextBox.deleteBefore
  | .deleteAfter => b.selectionOr TextBox.deleteAfter
  | .deleteToStart => b.selectionOr TextBox.deleteToStart
  | .deleteToEnd => b.selectionOr TextBox.deleteToEnd
  | .deleteWordBefore => b.selectionOr TextBox.deleteWordBefore
  | .deleteWordAfter => b.selectionOr TextBox.deleteWordAfter
  | .undo => b.undo
  | .redo => b.redo
  | .cut => b.cut
  | .copy => b.copy
  | .paste => b.paste
  | .move m => b.move m shift
  | .pageDown => b.pageDown shift
  | .pageUp => b.pageUp shift

/-- **A key pressed in the box.** -/
def press (b : TextBox) (k : KeyPress) : TextBox :=
  match bound? k with
  | none => b
  | some deed => b.perform k.shift deed

end TextBox

end DeployBoard
