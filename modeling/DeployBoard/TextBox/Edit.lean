import DeployBoard.TextBox.Lines
import DeployBoard.TextBox.Word

/-!
# `TextBox.Edit` — a text box and what can be done to its text

A text box holds lines, a cursor, the mark at which a selection began, what the last deletion of a word or a line removed
(for pasting), and the edits that can be undone and redone.

Every edit puts one piece of text in or takes one out (`insertPiece`, `removeRange`), and is undone by the
opposite. Whatever inserts or deletes takes the selected text out first.
-/

namespace DeployBoard

namespace TextBox

/-- **One edit**: `piece` was put in at `before`, or taken out at `after`. The cursor went from `before` to
    `after`. -/
structure Edit where
  inserted : Bool
  piece : List Line
  before : Place
  after : Place
  deriving DecidableEq, Repr

/-- Does an edit again. -/
def Edit.redo (e : Edit) (lines : List Line) : List Line :=
  if e.inserted then insertAt lines e.before e.piece
  else removeBetween lines e.after (pieceEnd e.after e.piece)

/-- Takes an edit back. -/
def Edit.undo (e : Edit) (lines : List Line) : List Line :=
  if e.inserted then removeBetween lines e.before (pieceEnd e.before e.piece)
  else insertAt lines e.after e.piece

/-- So many edits can be undone. -/
def maxEdits : Nat := 50

/-- The part of the text that was drawn last: its first row and column, and its size. -/
structure Viewport where
  row : Nat := 0
  column : Nat := 0
  width : Nat := 0
  height : Nat := 0
  deriving DecidableEq, Repr, Inhabited

end TextBox

/-- **A text box.** Both lists of edits begin with the one that is next. -/
structure TextBox where
  lines : List TextBox.Line := [[]]
  cursor : TextBox.Place := {}
  mark : Option TextBox.Place := none
  removed : List TextBox.Line := [[]]
  done : List TextBox.Edit := []
  undone : List TextBox.Edit := []
  viewport : TextBox.Viewport := {}
  deriving DecidableEq, Repr, Inhabited

namespace TextBox

/-- The text of the box on one line: a space stands for each line break. -/
def text (b : TextBox) : String := String.ofList (List.intercalate [' '] b.lines)

/-- The line under the cursor. -/
def line (b : TextBox) : Line := lineAt b.lines b.cursor.row

/-! ## Edits -/

/-- Remembers an edit; what was undone cannot be redone any more. -/
def remember (b : TextBox) (e : Edit) : TextBox :=
  let kept := if b.done.length + b.undone.length = maxEdits then b.done.dropLast else b.done
  { b with done := e :: kept, undone := [] }

/-- **Puts a piece of text in** at the cursor. -/
def insertPiece (b : TextBox) (piece : List Line) : TextBox :=
  let after := pieceEnd b.cursor piece
  { b with lines := insertAt b.lines b.cursor piece, cursor := after }.remember
    { inserted := true, piece, before := b.cursor, after }

/-- **Takes out** what lies between two places. -/
def removeRange (b : TextBox) (first last : Place) : TextBox :=
  { b with lines := removeBetween b.lines first last, cursor := first }.remember
    { inserted := false, piece := textBetween b.lines first last, before := last, after := first }

/-- Takes the last edit back. -/
def undo (b : TextBox) : TextBox :=
  match b.done with
  | [] => b
  | e :: rest =>
    { b with lines := e.undo b.lines, cursor := e.before, mark := none, done := rest, undone := e :: b.undone }

/-- Does the edit taken back last again. -/
def redo (b : TextBox) : TextBox :=
  match b.undone with
  | [] => b
  | e :: rest =>
    { b with lines := e.redo b.lines, cursor := e.after, mark := none, done := e :: b.done, undone := rest }

/-! ## The selection -/

/-- The selected range, if it is not empty. -/
def selection? (b : TextBox) : Option (Place × Place) :=
  b.mark.bind fun mark =>
    if mark.before b.cursor then some (mark, b.cursor)
    else if b.cursor.before mark then some (b.cursor, mark)
    else none

/-- The box without a selection. -/
def deselect (b : TextBox) : TextBox := { b with mark := none }

/-- The box without the selected text, if some is selected. -/
def removeSelection? (b : TextBox) : Option TextBox :=
  b.selection?.map fun (first, last) => b.deselect.removeRange first last

/-- The box without selected text and without a selection. -/
def replaceable (b : TextBox) : TextBox := b.removeSelection?.getD b.deselect

/-- Deletes the selected text or else what `delete` deletes. -/
def selectionOr (b : TextBox) (delete : TextBox → TextBox) : TextBox :=
  b.removeSelection?.getD (delete b.deselect)

/-- Takes the selected text out and keeps it for pasting. -/
def cut (b : TextBox) : TextBox :=
  match b.selection? with
  | none => b.deselect
  | some (first, last) => { b.deselect.removeRange first last with removed := textBetween b.lines first last }

/-! ## Insertion -/

/-- A line break. -/
def lineBreak : List Line := [[], []]

/-- Types a character; both line break characters break the line. -/
def insertChar (b : TextBox) (c : Char) : TextBox :=
  b.replaceable.insertPiece (if c = '\n' ∨ c = '\r' then lineBreak else [[c]])

/-- Breaks the line. -/
def insertBreak (b : TextBox) : TextBox := b.replaceable.insertPiece lineBreak

/-- Puts a piece of text in, unless it is empty. -/
def insertSome (b : TextBox) (piece : List Line) : TextBox := if piece = [[]] then b else b.insertPiece piece

/-- Cuts a text into lines at its line feeds; `line` holds, in reverse, the line being read. A carriage return before a
    line feed, or at the end, belongs to the break. -/
def splitLines (line : Line) : List Char → List Line
  | [] => [(if line.head? = some '\r' then line.tail else line).reverse]
  | c :: cs =>
    if c = '\n' then (if line.head? = some '\r' then line.tail else line).reverse :: splitLines [] cs
    else splitLines (c :: line) cs

/-- **Puts a text in** at the cursor. -/
def insertText (b : TextBox) (text : String) : TextBox := b.replaceable.insertSome (splitLines [] text.toList)

/-- Puts in again what was removed last. -/
def paste (b : TextBox) : TextBox := b.replaceable.insertSome b.removed

/-! ## Deletion -/

/-- Takes a part of the cursor's line out and keeps it for pasting. -/
def removePart (b : TextBox) (first last : Nat) : TextBox :=
  let first : Place := ⟨b.cursor.row, first⟩
  let last : Place := ⟨b.cursor.row, last⟩
  { b.removeRange first last with removed := textBetween b.lines first last }

/-- Joins the cursor's line to the one before. -/
def joinBefore (b : TextBox) : TextBox :=
  if b.cursor.row = 0 then b else b.removeRange (rowEnd b.lines (b.cursor.row - 1)) ⟨b.cursor.row, 0⟩

/-- Deletes the character before the cursor. -/
def deleteBefore (b : TextBox) : TextBox :=
  if b.cursor.column = 0 then b.joinBefore
  else b.removeRange ⟨b.cursor.row, b.cursor.column - 1⟩ b.cursor

/-- Deletes the character after the cursor, or the line break there. -/
def deleteAfter (b : TextBox) : TextBox :=
  if b.cursor.column < b.line.length then b.removeRange b.cursor ⟨b.cursor.row, b.cursor.column + 1⟩
  else if b.cursor.row + 1 < b.lines.length then b.removeRange (rowEnd b.lines b.cursor.row) ⟨b.cursor.row + 1, 0⟩
  else b

/-- Deletes what follows the cursor on its line, or the line break at the end. -/
def deleteToEnd (b : TextBox) : TextBox :=
  if b.cursor.column < b.line.length then b.removePart b.cursor.column b.line.length else b.deleteAfter

/-- Deletes what precedes the cursor on its line, or the line break before it. -/
def deleteToStart (b : TextBox) : TextBox :=
  if b.cursor.column = 0 then b.joinBefore else b.removePart 0 b.cursor.column

/-- Deletes the word before the cursor. -/
def deleteWordBefore (b : TextBox) : TextBox :=
  match lastWordStart? b.line b.cursor.column with
  | some column => b.removePart column b.cursor.column
  | none => b.deleteToStart

/-- Deletes the word after the cursor. -/
def deleteWordAfter (b : TextBox) : TextBox :=
  match nextWordEnd? b.line b.cursor.column with
  | some column => b.removePart b.cursor.column column
  | none => b.deleteToEnd

/-- **Empties the cursor's line**: what precedes the cursor, and then what follows it. A selection goes in place of
    the first, and a line break when there is nothing to delete. -/
def clearLine (b : TextBox) : TextBox := (b.selectionOr deleteToStart).selectionOr deleteToEnd

end TextBox

end DeployBoard
