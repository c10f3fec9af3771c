import DeployBoard.Text.Blank
import DeployBoard.Text.ClusterTable
import DeployBoard.Text.Lowercase
import DeployBoard.Text.PrintableTable
import DeployBoard.Text.WidthTable
import DeployBoard.Url.NameTable
import DeployBoard.Url.Punycode

/-!
# `Url.Domain` — domain names

A domain name is mapped before it is used: to lower case, letters and figures in other dress to ASCII, every kind of full
stop to a dot, and without the characters that are ignored. Its labels that are written in ASCII for another
script are read back, so that a name has one form here, whichever way it was written.

A name is refused when a label begins with a mark, when it holds a character that no name may hold, or when its labels could
be read in the wrong order, because it holds characters that are written from right to left.
-/

namespace DeployBoard.Url

open Text

/-- Characters that are ignored in names. -/
def ignoredInNames : CodeRanges :=
  [(0xAD, 0xAD), (0x34F, 0x34F), (0x180B, 0x180D), (0x180F, 0x180F), (0x200B, 0x200B), (0x2060, 0x2060),
   (0x2064, 0x2064), (0xFE00, 0xFE0F), (0xFEFF, 0xFEFF), (0x1BCA0, 0x1BCA3), (0xE0100, 0xE01EF)]

/-- The ASCII characters that no domain name may hold. -/
def forbiddenInDomain (c : Char) : Bool :=
  c.toNat ≤ 0x20 || c.toNat = 0x7F ||
    ['#', '%', '/', ':', '<', '>', '?', '@', '[', '\\', ']', '^', '|'].contains c

/-- The ASCII character that another stands for. -/
def folded? (c : Char) : Option Char :=
  (foldedRuns.find? fun run => run.1 ≤ c.toNat && c.toNat ≤ run.2.1).map fun run =>
    Char.ofNat (run.2.2 + (c.toNat - run.1))

/-- The figures that a circled number stands for. -/
def circled? (c : Char) : Option (List Char) :=
  (circledNumbers.find? fun run => run.1 ≤ c.toNat && c.toNat ≤ run.2.1).map fun run =>
    (toString (run.2.2 + (c.toNat - run.1))).toList

/-- **What a character of a name is mapped to**; nothing for a character that no name may hold. -/
def mapNameChar (c : Char) : Option (List Char) :=
  let n := c.toNat
  if n < 0x80 then some [c.toLower]
  else if ignoredInNames.has c then some []
  else if 0xFF01 ≤ n ∧ n ≤ 0xFF5E then some [(Char.ofNat (n - 0xFEE0)).toLower]
  else if isBlank c || unprintable.has c || refusedInNames.has c || n = 0xFFFD then none
  else some (((folded? c).map ([·])).or (circled? c) |>.getD (lowercaseChar c))

/-- The mapped characters of a name. -/
def mapName (cs : List Char) : Option (List Char) := (cs.mapM mapNameChar).map List.flatten

/-- Cuts characters at each `mark`; `piece` holds, in reverse, the piece being read. -/
def splitAtChar (mark : Char) (piece : List Char) : List Char → List (List Char)
  | [] => [piece.reverse]
  | c :: cs => if c = mark then piece.reverse :: splitAtChar mark [] cs else splitAtChar mark (c :: piece) cs

/-- A label may not begin with a mark. -/
def startsWithMark (label : List Char) : Bool :=
  label.head?.any fun c => graphemeExtend.has c || spacingMark.has c

/-- The label that a mapped label stands for. A label written in ASCII has to stand for one that needs that and that is
    in its mapped form. -/
def readLabel (label : List Char) : Option (List Char) :=
  match label with
  | 'x' :: 'n' :: '-' :: '-' :: rest => do
    let cs ← Punycode.decode? rest
    if cs.all (·.toNat < 0x80) then none
    else if cs.all fun c => mapNameChar c = some [c] then some cs
    else none
  | _ => some label

/-- The label, if it may stand in a name. -/
def checkedLabel (label : List Char) : Option (List Char) := do
  let cs ← readLabel label
  if startsWithMark cs || cs.any forbiddenInDomain then none else some cs

/-! ## Directions -/

/-- **How a character is written** among others. -/
inductive Direction where
  | left | right
  /-- A figure, and a figure that goes with characters from right to left. -/
  | figure | arabicFigure
  /-- A mark goes with the character before it. -/
  | mark
  | none
  deriving DecidableEq, Repr

/-- The direction of a character. -/
def directionOf (c : Char) : Direction :=
  if c.isDigit || europeanFigure.has c then .figure
  else if c.toNat < 0x80 then if c.isAlpha then .left else .none
  else if rightToLeft.has c then .right
  else if arabicFigure.has c then .arabicFigure
  else if graphemeExtend.has c then .mark
  else if withoutDirection.has c then .none
  else .left

/-- The last direction that is not that of a mark. -/
def lastDirection? (ds : List Direction) : Option Direction := ds.reverse.find? (· ≠ .mark)

/-- **A label whose order can be seen**: it begins with a letter and has letters of one direction only, and what it ends with
    goes with them. -/
def isOrdered (label : List Char) : Bool :=
  let ds := label.map directionOf
  match ds with
  | [] => true
  | .right :: _ =>
    !ds.contains .left && !(ds.contains .figure && ds.contains .arabicFigure) &&
      (lastDirection? ds).any [Direction.right, .figure, .arabicFigure].contains
  | .left :: _ =>
    !ds.contains .right && !ds.contains .arabicFigure && (lastDirection? ds).any [Direction.left, .figure].contains
  | _ => false

/-- The order of a label matters in a name that holds such a character. -/
def isFromRight (c : Char) : Bool := rightToLeft.has c || arabicFigure.has c

/-! ## Names -/

/-- **The labels of a domain name** in their one form. -/
def domainLabels (cs : List Char) : Option (List (List Char)) := do
  let labels ← (splitAtChar '.' [] (← mapName cs)).mapM checkedLabel
  if labels.any (·.any isFromRight) && !labels.all isOrdered then none else some labels

end DeployBoard.Url
