import DeployBoard.Text.CaseTable

/-!
# `Text.Lowercase` — lower case for every script

Lower case is the full mapping of the character database: every capital becomes its small letter, the dotted
capital I becomes two characters, and a capital sigma becomes the final form at the end of a word. The last rule is
the only one that looks at the neighbours of a character, which is why a part of a text need not map to a part of
the mapped text.

* `lowercaseChar` — the mapping of one character, without context;
* `lowercaseFrom` — the mapping of a text whose characters before it are known;
* `lowercase` — the mapping of a whole text.
-/

namespace DeployBoard.Text

/-- The small letter that a run of capitals gives to the code point `n`, if `n` is in the run. -/
def CaseRun.lower? (run : CaseRun) (n : Nat) : Option Nat :=
  if run.first ≤ n ∧ n ≤ run.last ∧ (n - run.first) % run.step = 0 then
    some ((n : Int) + run.offset).toNat
  else none

/-- The simple mapping: one character to one character. -/
def simpleLower (c : Char) : Char :=
  if c.toNat < 128 then c.toLower
  else
    match lowercaseRuns.findSome? (·.lower? c.toNat) with
    | some n => Char.ofNat n
    | none => c

/-- **The mapping of one character without context**: as the simple mapping, but the dotted capital I keeps its dot
    as a combining mark. -/
def lowercaseChar (c : Char) : List Char :=
  if c = '\u0130' then ['i', '\u0307'] else [simpleLower c]

/-- The first character that is not ignored for case is a letter with case. -/
def casedNext (cs : List Char) : Bool :=
  match cs.dropWhile caseIgnorable.has with
  | [] => false
  | c :: _ => cased.has c

/-- **End of a word** between `before` (nearest first) and `after`: a letter precedes and none follows. -/
def endsWord (before after : List Char) : Bool := casedNext before && !casedNext after

/-- The capital sigma, whose small letter depends on its neighbours. -/
def capitalSigma : Char := '\u03A3'

/-- The mapping of the character `c` between `before` (nearest first) and `after`. -/
def lowercaseBetween (before : List Char) (c : Char) (after : List Char) : List Char :=
  if c = capitalSigma then [if endsWord before after then '\u03C2' else '\u03C3']
  else lowercaseChar c

/-- The mapping of a text that follows the characters `before` (nearest first). -/
def lowercaseFrom (before : List Char) : List Char → List Char
  | [] => []
  | c :: after => lowercaseBetween before c after ++ lowercaseFrom (c :: before) after

/-- The lower case of a text, as characters. -/
def lowercaseChars (cs : List Char) : List Char := lowercaseFrom [] cs

/-- **The lower case of a text.** -/
def lowercase (s : String) : String := String.ofList (lowercaseChars s.toList)

@[simp] theorem toList_lowercase (s : String) : (lowercase s).toList = lowercaseChars s.toList := by
  simp [lowercase]

@[simp] theorem lowercaseFrom_nil (before : List Char) : lowercaseFrom before [] = [] := rfl

theorem lowercaseFrom_cons (before : List Char) (c : Char) (after : List Char) :
    lowercaseFrom before (c :: after) =
      lowercaseBetween before c after ++ lowercaseFrom (c :: before) after := rfl

theorem lowercaseBetween_ne_nil (before : List Char) (c : Char) (after : List Char) :
    lowercaseBetween before c after ≠ [] := by
  unfold lowercaseBetween lowercaseChar
  split
  · simp
  · split <;> simp

end DeployBoard.Text
