/-!
# `Text.Numeral` — numbers as people type them

A number that is typed on the command line or set in the environment is unsigned, decimal and fits a word of 64 bits.
A plus sign and leading zeros are allowed; blanks, underscores and other digits are not. What is wrong
is reported for the first character that makes the number impossible.
-/

namespace DeployBoard.Text

/-- **Why a text is not a number.** -/
inductive NumeralError where
  | empty
  | invalidDigit
  | tooLarge
  deriving DecidableEq, Repr

/-- The message of an error. -/
def NumeralError.message : NumeralError → String
  | .empty => "cannot parse integer from empty string"
  | .invalidDigit => "invalid digit found in string"
  | .tooLarge => "number too large to fit in target type"

/-- Reads the digits `cs` after the number `n`. -/
def readDigits (n : Nat) : List Char → Except NumeralError Nat
  | [] => .ok n
  | c :: cs =>
    if c.isDigit then
      let n' := n * 10 + (c.toNat - 48)
      if n' < 0x10000000000000000 then readDigits n' cs else .error .tooLarge
    else .error .invalidDigit

/-- **Reads an unsigned number of 64 bits.** -/
def readUnsigned64 (s : String) : Except NumeralError Nat :=
  match s.toList with
  | [] => .error .empty
  | ['+'] => .error .invalidDigit
  | '+' :: cs => readDigits 0 cs
  | cs => readDigits 0 cs

end DeployBoard.Text
