/-!
# `Text.Utf8` — characters as bytes

A character takes one to four bytes. Reading is a state machine: after a first byte, `Pending` says how many more are needed
and in which range the next one lies. A byte that cannot continue a character ends it as an ill-formed
sequence and is read anew. What is ill-formed is `none` in the result, so a strict reader refuses it and a lenient one
puts the replacement character in its place.
-/

namespace DeployBoard.Text

/-- The bytes of a character. -/
def utf8Bytes (c : Char) : List Nat :=
  let n := c.toNat
  if n < 0x80 then [n]
  else if n < 0x800 then [0xC0 + n / 0x40, 0x80 + n % 0x40]
  else if n < 0x10000 then [0xE0 + n / 0x1000, 0x80 + n / 0x40 % 0x40, 0x80 + n % 0x40]
  else [0xF0 + n / 0x40000, 0x80 + n / 0x1000 % 0x40, 0x80 + n / 0x40 % 0x40, 0x80 + n % 0x40]

/-- The bytes of a text. -/
def encodeUtf8 (cs : List Char) : List Nat := cs.flatMap utf8Bytes

/-- **A character of which some bytes are missing**: its value so far, how many bytes are needed, and the range of the
    next. -/
structure Pending where
  value : Nat
  needed : Nat
  low : Nat
  high : Nat
  deriving DecidableEq, Repr

/-- What a first byte begins: a whole character, a pending one, or nothing. -/
def firstByte (b : Nat) : Option (Char ⊕ Pending) :=
  if b < 0x80 then some (.inl (Char.ofNat b))
  else if 0xC2 ≤ b ∧ b ≤ 0xDF then some (.inr ⟨b - 0xC0, 1, 0x80, 0xBF⟩)
  else if b = 0xE0 then some (.inr ⟨0, 2, 0xA0, 0xBF⟩)
  else if b = 0xED then some (.inr ⟨0xD, 2, 0x80, 0x9F⟩)
  else if 0xE1 ≤ b ∧ b ≤ 0xEF then some (.inr ⟨b - 0xE0, 2, 0x80, 0xBF⟩)
  else if b = 0xF0 then some (.inr ⟨0, 3, 0x90, 0xBF⟩)
  else if 0xF1 ≤ b ∧ b ≤ 0xF3 then some (.inr ⟨b - 0xF0, 3, 0x80, 0xBF⟩)
  else if b = 0xF4 then some (.inr ⟨4, 3, 0x80, 0x8F⟩)
  else none

/-- Reads bytes after a pending character, if there is one. -/
def decodeFrom (pending : Option Pending) : List Nat → List (Option Char)
  | [] => if pending.isSome then [none] else []
  | b :: rest =>
    let fresh (ill : List (Option Char)) : List (Option Char) :=
      match firstByte b with
      | some (.inl c) => ill ++ some c :: decodeFrom none rest
      | some (.inr p) => ill ++ decodeFrom (some p) rest
      | none => ill ++ none :: decodeFrom none rest
    match pending with
    | none => fresh []
    | some p =>
      if p.low ≤ b ∧ b ≤ p.high then
        let value := p.value * 0x40 + (b - 0x80)
        if p.needed ≤ 1 then some (Char.ofNat value) :: decodeFrom none rest
        else decodeFrom (some ⟨value, p.needed - 1, 0x80, 0xBF⟩) rest
      else fresh [none]

/-- **The text of bytes**, if they are well-formed. -/
def decodeUtf8? (bytes : List Nat) : Option (List Char) := (decodeFrom none bytes).mapM id

/-- **The text of bytes** where each ill-formed sequence becomes the replacement character. -/
def decodeUtf8Lossy (bytes : List Nat) : List Char := (decodeFrom none bytes).map (·.getD '\uFFFD')

end DeployBoard.Text
