/-!
# `Json.Text` — strings as JSON writes them

A JSON string stands between quotes. Inside, a backslash starts an escape; an escape by number gives a code unit of 16
bits, and two of them can make one character. What is read is therefore first a list of units
(`scanUnits`) and then, if the code units pair up, a text (`joinUnits`).

Writing escapes the quote, the backslash and the control characters below the space, and leaves all else as it is.
`Proofs.Json.Text` shows that what is written is read back.
-/

namespace DeployBoard.Json

/-! ## Writing -/

/-- The hexadecimal digit of a number below 16, in lower case. -/
def hexDigit (n : Nat) : Char := if n < 10 then Char.ofNat (48 + n) else Char.ofNat (87 + n)

/-- **One character as it stands in a JSON string.** -/
def encodeChar (c : Char) : List Char :=
  if c = '\x22' then ['\\', '\x22']
  else if c = '\\' then ['\\', '\\']
  else if c = '\x08' then ['\\', 'b']
  else if c = '\x0C' then ['\\', 'f']
  else if c = '\n' then ['\\', 'n']
  else if c = '\r' then ['\\', 'r']
  else if c = '\t' then ['\\', 't']
  else if c.toNat < 0x20 then ['\\', 'u', '0', '0', hexDigit (c.toNat / 16), hexDigit (c.toNat % 16)]
  else [c]

/-- A text between quotes. -/
def encodeText (s : String) : List Char := ['\x22'] ++ s.toList.flatMap encodeChar ++ ['\x22']

/-! ## Reading -/

/-- **A unit of a string as read**: a character, or the code unit of a numeric escape. -/
inductive TextUnit where
  | char (c : Char)
  | code (n : Nat)
  deriving DecidableEq, Repr

/-- The value of a hexadecimal digit. -/
def hexValue? (c : Char) : Option Nat :=
  if '0' ≤ c ∧ c ≤ '9' then some (c.toNat - 48)
  else if 'a' ≤ c ∧ c ≤ 'f' then some (c.toNat - 87)
  else if 'A' ≤ c ∧ c ≤ 'F' then some (c.toNat - 55)
  else none

/-- The number that four hexadecimal digits write. -/
def hexQuad? (a b c d : Char) : Option Nat := do
  let a ← hexValue? a
  let b ← hexValue? b
  let c ← hexValue? c
  let d ← hexValue? d
  some (((a * 16 + b) * 16 + c) * 16 + d)

/-- The character of an escape by letter. -/
def escaped? (c : Char) : Option Char :=
  if c = '\x22' ∨ c = '\\' ∨ c = '/' then some c
  else if c = 'b' then some '\x08'
  else if c = 'f' then some '\x0C'
  else if c = 'n' then some '\n'
  else if c = 'r' then some '\r'
  else if c = 't' then some '\t'
  else none

/-- **Reads a string after its opening quote**: its units and what follows the closing quote. A control character
    below the space may not stand in a string. -/
def scanUnits : List Char → Option (List TextUnit × List Char)
  | [] => none
  | '\x22' :: rest => some ([], rest)
  | '\\' :: 'u' :: a :: b :: c :: d :: rest =>
    (hexQuad? a b c d).bind fun n => (scanUnits rest).map fun (us, r) => (.code n :: us, r)
  | '\\' :: e :: rest =>
    (escaped? e).bind fun c => (scanUnits rest).map fun (us, r) => (.char c :: us, r)
  | c :: rest =>
    if c = '\\' ∨ c.toNat < 0x20 then none
    else (scanUnits rest).map fun (us, r) => (.char c :: us, r)

/-- The first of a pair of code units. -/
def isHighUnit (n : Nat) : Bool := 0xD800 ≤ n && n < 0xDC00

/-- The second of a pair of code units. -/
def isLowUnit (n : Nat) : Bool := 0xDC00 ≤ n && n < 0xE000

/-- **The text of a list of units**: each code unit is a character, or one of a pair that makes a character. There is
    no text when half a pair stands alone. -/
def joinUnits : List TextUnit → Option (List Char)
  | [] => some []
  | .char c :: us => (joinUnits us).map (c :: ·)
  | .code n :: .code m :: us =>
    if isHighUnit n then
      if isLowUnit m then
        (joinUnits us).map (Char.ofNat (0x10000 + (n - 0xD800) * 0x400 + (m - 0xDC00)) :: ·)
      else none
    else if isLowUnit n then none
    else (joinUnits (.code m :: us)).map (Char.ofNat n :: ·)
  | .code n :: us =>
    if isHighUnit n || isLowUnit n then none else (joinUnits us).map (Char.ofNat n :: ·)

/-- Reads a string after its opening quote; the text is missing when its code units do not pair up. -/
def scanText (cs : List Char) : Option (Option String × List Char) :=
  (scanUnits cs).map fun (us, rest) => ((joinUnits us).map String.ofList, rest)

end DeployBoard.Json
