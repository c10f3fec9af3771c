import DeployBoard.Text.Blank

/-!
# `TextBox.Word` — where words begin and end in a line

A word is a run of characters of one kind, white space apart: ASCII punctuation, or everything else. Columns are
counted in characters.
-/

namespace DeployBoard.TextBox

/-- The kinds of characters that words are made of. -/
inductive CharKind where
  | space | punctuation | letter
  deriving DecidableEq, Repr

/-- ASCII punctuation. -/
def isPunctuation (c : Char) : Bool :=
  let n := c.toNat
  (0x21 ≤ n && n ≤ 0x2F) || (0x3A ≤ n && n ≤ 0x40) || (0x5B ≤ n && n ≤ 0x60) || (0x7B ≤ n && n ≤ 0x7E)

/-- The kind of a character. -/
def charKind (c : Char) : CharKind :=
  if Text.isBlank c then .space else if isPunctuation c then .punctuation else .letter

/-- The first position in `cs` at which a word begins after a character of the kind `last`; `column` is the column of
    `cs`. -/
def wordStartFrom (last : CharKind) (column : Nat) : List Char → Option Nat
  | [] => none
  | c :: cs =>
    let kind := charKind c
    if kind ≠ .space ∧ last ≠ kind then some column else wordStartFrom kind (column + 1) cs

/-- **The column at which the next word begins.** -/
def nextWordStart? (line : List Char) (column : Nat) : Option Nat :=
  match line.drop column with
  | [] => none
  | c :: cs => wordStartFrom (charKind c) (column + 1) cs

/-- The first position in `cs` at which a word ends whose last character is of the kind `last`. -/
def wordEndFrom (last : CharKind) (column : Nat) : List Char → Option Nat
  | [] => none
  | c :: cs =>
    let kind := charKind c
    if last ≠ .space ∧ last ≠ kind then some column else wordEndFrom kind (column + 1) cs

/-- **The column at which a word ends**, at the cursor or after it. -/
def nextWordEnd? (line : List Char) (column : Nat) : Option Nat :=
  match line.drop column with
  | [] => none
  | c :: cs => wordEndFrom (charKind c) (column + 1) cs

/-- The column before which a word begins, going back over `cs` from `column`; `last` is the kind of the character
    there. -/
def wordStartBackFrom (last : CharKind) (column : Nat) : List Char → Option Nat
  | [] => if last = .space then none else some 0
  | c :: cs =>
    let kind := charKind c
    if last ≠ .space ∧ kind ≠ last then some column else wordStartBackFrom kind (column - 1) cs

/-- **The column at which the word before begins.** -/
def lastWordStart? (line : List Char) (column : Nat) : Option Nat :=
  match (line.take column).reverse with
  | [] => none
  | c :: cs => wordStartBackFrom (charKind c) (column - 1) cs

end DeployBoard.TextBox
