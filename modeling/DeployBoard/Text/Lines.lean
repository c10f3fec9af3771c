import DeployBoard.Text.Utf8

/-!
# `Text.Lines` — input as lines

Input is bytes; its lines end with line feeds, and the last may lack one. A line is a text only if its bytes are
well-formed.
-/

namespace DeployBoard.Text

/-- **A line of input**: its characters without the line feed, unless its bytes are ill-formed, and whether it ends with a
    line feed. -/
structure InputLine where
  text : Option (List Char)
  ended : Bool
  deriving DecidableEq, Repr

/-- Cuts bytes at line feeds; `line` holds, in reverse, the line being read. -/
def inputLinesFrom (line : List Nat) : List Nat → List InputLine
  | [] => if line.isEmpty then [] else [⟨decodeUtf8? line.reverse, false⟩]
  | b :: bs =>
    if b = 0x0A then ⟨decodeUtf8? line.reverse, true⟩ :: inputLinesFrom [] bs else inputLinesFrom (b :: line) bs

/-- **The lines of input.** -/
def inputLines (bytes : List Nat) : List InputLine := inputLinesFrom [] bytes

/-- A line without the carriage return before its line feed. -/
def InputLine.content (l : InputLine) : Option String :=
  l.text.map fun cs => String.ofList (if l.ended && cs.getLast? = some '\r' then cs.dropLast else cs)

end DeployBoard.Text
