import DeployBoard.Toml.Text

/-!
# `Toml.Number` — numbers, dates and times of a configuration file

A number or date is a word (`word`): it ends at a blank, a comma, a closing bracket, a comment or a line break. Underscores may
stand between two digits. Integers take 64 bits; of floating-point numbers and dates only the form and
the range count here, because nothing is set by them.
-/

namespace DeployBoard.Toml

/-- What a word says. -/
inductive Scalar where
  | boolean (b : Bool)
  | integer (n : Int)
  | float
  | datetime
  deriving DecidableEq, Repr

/-! ## Digits -/

/-- A digit in a base. -/
def isDigitOf (base : Nat) (c : Char) : Bool := (hexValue? c).any (· < base)

/-- The digits of a word in which underscores stand only between digits. -/
def digitsOf (base : Nat) : List Char → Option (List Char)
  | [] => none
  | [c] => if isDigitOf base c then some [c] else none
  | c :: '_' :: rest => if isDigitOf base c then (digitsOf base rest).map (c :: ·) else none
  | c :: rest => if isDigitOf base c then (digitsOf base rest).map (c :: ·) else none

/-- The value of digits. -/
def valueOf (base : Nat) (ds : List Char) : Nat := ds.foldl (fun n d => n * base + (hexValue? d).getD 0) 0

/-- The sign of a word, and what follows it. -/
def splitSign : List Char → Bool × List Char
  | '-' :: rest => (true, rest)
  | '+' :: rest => (false, rest)
  | cs => (false, cs)

/-- Decimal digits without a leading zero. -/
def decimalDigits (cs : List Char) : Option (List Char) :=
  if 1 < cs.length && cs.head? = some '0' then none else digitsOf 10 cs

/-! ## Integers -/

/-- A number that fits 64 bits with a sign. -/
def fits (n : Int) : Option Scalar := if -0x8000000000000000 ≤ n ∧ n < 0x8000000000000000 then some (.integer n) else none

/-- **An integer**: decimal with a sign, or in another base without one. -/
def integer? (cs : List Char) : Option Scalar :=
  match cs with
  | '0' :: 'x' :: ds => (digitsOf 16 ds).bind fun ds => fits (valueOf 16 ds)
  | '0' :: 'o' :: ds => (digitsOf 8 ds).bind fun ds => fits (valueOf 8 ds)
  | '0' :: 'b' :: ds => (digitsOf 2 ds).bind fun ds => fits (valueOf 2 ds)
  | _ =>
    let (negative, ds) := splitSign cs
    (decimalDigits ds).bind fun ds => fits (if negative then -(valueOf 10 ds : Int) else valueOf 10 ds)

/-! ## Floating-point numbers -/

/-- A number of digits and an exponent of ten is at least the least that rounds to infinity. -/
def overflows (ds : List Char) (exponent : Int) : Bool :=
  let m := valueOf 10 ds
  let bound := Nat.pow 2 1024 - Nat.pow 2 970
  let size : Int := (ds.dropWhile (· = '0')).length
  if m = 0 then false
  else if 400 < size + exponent then true
  else if size + exponent < 200 then false
  else if 0 ≤ exponent then bound ≤ m * Nat.pow 10 exponent.toNat
  else bound * Nat.pow 10 (-exponent).toNat ≤ m

/-- The exponent after its letter. -/
def exponent? (cs : List Char) : Option Int :=
  let (negative, ds) := splitSign cs
  (digitsOf 10 ds).map fun ds => if negative then -(valueOf 10 ds : Int) else valueOf 10 ds

/-- **A floating-point number**: a fraction, an exponent, or both; a positive one may not be too large. -/
def float? (cs : List Char) : Option Scalar := do
  let (negative, rest) := splitSign cs
  if rest = "inf".toList ∨ rest = "nan".toList then return .float
  let isMark (c : Char) : Bool := c = '.' || c = 'e' || c = 'E'
  let whole ← decimalDigits (rest.takeWhile fun c => !isMark c)
  let after := rest.dropWhile fun c => !isMark c
  let (fraction, after) ← match after with
    | '.' :: ds => do
      let isExponent (c : Char) : Bool := c = 'e' || c = 'E'
      let fraction ← digitsOf 10 (ds.takeWhile fun c => !isExponent c)
      pure (fraction, ds.dropWhile fun c => !isExponent c)
    | [] => none
    | after => some ([], after)
  let exponent ← match after with
    | [] => some 0
    | _ :: ds => exponent? ds
  if !negative && overflows (whole ++ fraction) (exponent - fraction.length) then none else some .float

/-! ## Dates and times -/

/-- The number of digits only. -/
def plainNumber (cs : List Char) : Option Nat :=
  if cs.all Char.isDigit && !cs.isEmpty then some (valueOf 10 cs) else none

/-- A leap year. -/
def isLeap (year : Nat) : Bool := year % 4 = 0 && (year % 100 ≠ 0 || year % 400 = 0)

/-- The days of a month. -/
def daysIn (year month : Nat) : Nat :=
  if month = 2 then if isLeap year then 29 else 28
  else if month = 4 ∨ month = 6 ∨ month = 9 ∨ month = 11 then 30
  else 31

/-- A date, in ten characters. -/
def isDate : List Char → Bool
  | [y1, y2, y3, y4, '-', m1, m2, '-', d1, d2] =>
    match plainNumber [y1, y2, y3, y4], plainNumber [m1, m2], plainNumber [d1, d2] with
    | some year, some month, some day => 1 ≤ month && month ≤ 12 && 1 ≤ day && day ≤ daysIn year month
    | _, _, _ => false
  | _ => false

/-- Two digits of a number up to a bound. -/
def isUpTo (bound : Nat) (a b : Char) : Bool := (plainNumber [a, b]).any (· ≤ bound)

/-- What follows a fraction of a second, if there is one. -/
def afterFraction : List Char → List Char
  | '.' :: d :: rest => if d.isDigit then rest.dropWhile Char.isDigit else '.' :: d :: rest
  | cs => cs

/-- What follows a time, if there is one. -/
def afterTime : List Char → Option (List Char)
  | h1 :: h2 :: ':' :: m1 :: m2 :: ':' :: s1 :: s2 :: rest =>
    if isUpTo 23 h1 h2 && isUpTo 59 m1 m2 && isUpTo 60 s1 s2 then some (afterFraction rest) else none
  | _ => none

/-- The distance from the standard time, or nothing. -/
def isOffset : List Char → Bool
  | [] => true
  | ['Z'] => true
  | ['z'] => true
  | [sign, h1, h2, ':', m1, m2] => (sign = '+' || sign = '-') && isUpTo 23 h1 h2 && isUpTo 59 m1 m2
  | _ => false

/-- A time that may have an offset. -/
def isOffsetTime (cs : List Char) : Bool := (afterTime cs).any isOffset

/-- **A date, a time, or both.** -/
def isDatetime (cs : List Char) : Bool :=
  isDate cs || afterTime cs = some [] ||
    (isDate (cs.take 10) &&
      match cs.drop 10 with
      | mark :: time => (mark = 'T' || mark = 't') && isOffsetTime time
      | [] => false)

/-! ## Words -/

/-- The end of a word. -/
def endsWord (c : Char) : Bool := [' ', '\t', '\n', '\r', ',', ']', '\x7d', '#'].contains c

/-- A word, and what follows it. -/
def word (cs : List Char) : List Char × List Char :=
  (cs.takeWhile fun c => !endsWord c, cs.dropWhile fun c => !endsWord c)

/-- What a word says, if it says anything. -/
def scalarOf (w : List Char) : Option Scalar :=
  if w = "true".toList then some (.boolean true)
  else if w = "false".toList then some (.boolean false)
  else if isDatetime w then some .datetime
  else (float? w).or (integer? w)

/-- A time begins: two digits and a colon. -/
def startsTime : List Char → Bool
  | a :: b :: ':' :: _ => isUpTo 23 a b
  | _ => false

/-- **Reads a word.** A blank may stand between a date and a time. -/
def scanScalar (cs : List Char) : Option (Scalar × List Char) :=
  let (w, rest) := word cs
  match rest with
  | ' ' :: after =>
    if isDate w && startsTime after then
      let (time, rest) := word after
      if isOffsetTime time then some (.datetime, rest) else none
    else (scalarOf w).map fun s => (s, rest)
  | _ => (scalarOf w).map fun s => (s, rest)

end DeployBoard.Toml
