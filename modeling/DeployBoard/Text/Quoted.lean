import DeployBoard.Text.PrintableTable
import DeployBoard.Text.WidthTable

/-!
# `Text.Quoted` — text between double quotes, for messages

A message that shows a text it was given quotes it, so that blanks at its ends and characters without a shape are
seen: a quote and a backslash get a backslash, line breaks, tabs and the null character their letter, and every
other character that cannot be printed, or that would attach itself to its neighbour, its number in braces.
-/

namespace DeployBoard.Text

/-- Lower-case hexadecimal digits of `n`, without leading zeros. -/
def hexDigits (n : Nat) : List Char := Nat.toDigits 16 n

/-- **One character as it stands between quotes.** -/
def quotedChar (c : Char) : List Char :=
  if c = '\x22' then ['\\', '\x22']
  else if c = '\\' then ['\\', '\\']
  else if c = '\t' then ['\\', 't']
  else if c = '\r' then ['\\', 'r']
  else if c = '\n' then ['\\', 'n']
  else if c.toNat = 0 then ['\\', '0']
  else if c.toNat < 0x7F ∧ 0x20 ≤ c.toNat then [c]
  else if graphemeExtend.has c || unprintable.has c then
    ['\\', 'u', '\x7b'] ++ hexDigits c.toNat ++ ['\x7d']
  else [c]

/-- **A text between double quotes.** -/
def quoted (s : String) : String :=
  String.ofList (['\x22'] ++ s.toList.flatMap quotedChar ++ ['\x22'])

end DeployBoard.Text
