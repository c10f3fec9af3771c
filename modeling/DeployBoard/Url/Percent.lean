import DeployBoard.Text.Utf8

/-!
# `Url.Percent` — percent signs in addresses

A character that may not stand in a part of an address is written as its bytes, each as a percent sign and two upper-case
hexadecimal digits. A percent sign that is there already stays as it is.
-/

namespace DeployBoard.Url

open Text

/-- The upper-case hexadecimal digit of a number below 16. -/
def hexDigit (n : Nat) : Char := if n < 10 then Char.ofNat (48 + n) else Char.ofNat (55 + n)

/-- A byte as a percent sign and two digits. -/
def percentByte (b : Nat) : List Char := ['%', hexDigit (b / 16), hexDigit (b % 16)]

/-- Control characters and everything outside ASCII are encoded in every part of an address. -/
def alwaysEncoded (c : Char) : Bool := c.toNat < 0x20 || 0x7F ≤ c.toNat

/-- What is encoded in a path. -/
def encodedInPath (c : Char) : Bool := alwaysEncoded c || [' ', '\x22', '<', '>', '\x60', '\x7b', '\x7d', '#', '?'].contains c

/-- What is encoded in a query. -/
def encodedInQuery (c : Char) : Bool := alwaysEncoded c || [' ', '\x22', '<', '>', '#', '\x27'].contains c

/-- **Writes a part of an address**, where `encoded` says which characters are encoded. -/
def percentEncode (encoded : Char → Bool) (cs : List Char) : List Char :=
  cs.flatMap fun c => if encoded c then (utf8Bytes c).flatMap percentByte else [c]

/-- The value of a hexadecimal digit. -/
def hexValue? (c : Char) : Option Nat :=
  if '0' ≤ c ∧ c ≤ '9' then some (c.toNat - 48)
  else if 'a' ≤ c ∧ c ≤ 'f' then some (c.toNat - 87)
  else if 'A' ≤ c ∧ c ≤ 'F' then some (c.toNat - 55)
  else none

/-- The bytes of a text in which percent signs with two digits stand for bytes. -/
def percentDecode : List Char → List Nat
  | '%' :: a :: b :: rest =>
    match hexValue? a, hexValue? b with
    | some a, some b => (a * 16 + b) :: percentDecode rest
    | _, _ => 0x25 :: percentDecode (a :: b :: rest)
  | c :: rest => utf8Bytes c ++ percentDecode rest
  | [] => []

end DeployBoard.Url
