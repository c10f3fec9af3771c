/-!
# `Url.Punycode` — names in other scripts, written in ASCII

A label of a domain name that begins with `xn--` stands for a label in another script. Its letters after the last hyphen
are the digits of insertions into the part before it: each says how far to go on, through the positions of the
text and then through the characters, to the next insertion.
-/

namespace DeployBoard.Url.Punycode

/-- The value of a digit: letters come before figures. -/
def digitValue? (c : Char) : Option Nat :=
  if 'a' ≤ c ∧ c ≤ 'z' then some (c.toNat - 97)
  else if 'A' ≤ c ∧ c ≤ 'Z' then some (c.toNat - 65)
  else if '0' ≤ c ∧ c ≤ '9' then some (c.toNat - 22)
  else none

/-- The least value that is not the last digit of its number. -/
def threshold (k bias : Nat) : Nat := max 1 (min 26 (k - bias))

/-- The part of a new bias that comes of dividing a distance. -/
def adaptFrom (delta k : Nat) : Nat :=
  if delta ≤ 455 then k + 36 * delta / (delta + 38) else adaptFrom (delta / 35) (k + 36)
termination_by delta

/-- The bias after an insertion at a distance of `delta`, into a text that then has `size` characters. -/
def adapt (delta size : Nat) (first : Bool) : Nat :=
  let delta := if first then delta / 700 else delta / 2
  adaptFrom (delta + delta / size) 0

/-- **How far a label has been read**: the character and the position that the last insertion went on from, the number
    being read, and the text. -/
structure State where
  code : Nat := 128
  position : Nat := 0
  bias : Nat := 72
  start : Nat := 0
  weight : Nat := 1
  k : Nat := 36
  text : List Char
  deriving DecidableEq, Repr

/-- One more digit. -/
def step (s : State) (c : Char) : Option State := do
  let digit ← digitValue? c
  let position := s.position + digit * s.weight
  let t := threshold s.k s.bias
  if t ≤ digit then some { s with position, weight := s.weight * (36 - t), k := s.k + 36 }
  else
    let size := s.text.length + 1
    let code := s.code + position / size
    let place := position % size
    if code.isValidChar then
      some
        { code
          position := place + 1
          bias := adapt (position - s.start) size (s.start = 0)
          start := place + 1
          text := s.text.take place ++ Char.ofNat code :: s.text.drop place }
    else none

/-- The part before the last hyphen, and the digits. -/
def splitLast (cs : List Char) : List Char × List Char :=
  let digits := (cs.reverse.takeWhile (· ≠ '-')).reverse
  match cs.length - digits.length with
  | 0 => ([], digits)
  | 1 => ([], cs)
  | n + 1 => (cs.take n, digits)

/-- **The label that a label in ASCII stands for**, read after its `xn--`. -/
def decode? (cs : List Char) : Option (List Char) := do
  let (text, digits) := splitLast cs
  let s ← digits.foldlM step { text }
  if s.k = 36 then some s.text else none

end DeployBoard.Url.Punycode
