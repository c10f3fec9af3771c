/-!
# `Toml.Text` — blanks, comments and strings of a configuration file

A configuration file is a list of characters. Every reader here takes the characters that are left and gives what it
read and what is left after it, or nothing where the file is not well-formed.

There are four kinds of strings: between quotes, with escapes, and between apostrophes, without; and either on one line
or, between three marks, on more. A line break of two characters counts as one line feed.
-/

namespace DeployBoard.Toml

/-! ## Blanks and comments -/

/-- A blank on a line. -/
def isBlank (c : Char) : Bool := c = ' ' || c = '\t'

/-- What follows the blanks. -/
def skipBlanks (cs : List Char) : List Char := cs.dropWhile isBlank

/-- A character that may stand in a comment or a string. -/
def isPrintable (c : Char) : Bool := c = '\t' || (0x20 ≤ c.toNat && c.toNat ≠ 0x7F)

/-- What follows a line break, if there is one. -/
def skipBreak : List Char → Option (List Char)
  | '\n' :: rest => some rest
  | '\r' :: '\n' :: rest => some rest
  | _ => none

/-- What follows a comment, if there is one. -/
def skipComment : List Char → List Char
  | '#' :: rest => rest.dropWhile isPrintable
  | cs => cs

/-- **The end of a line**: blanks, a comment, and a line break or the end of the file. -/
def skipLineEnd (cs : List Char) : Option (List Char) :=
  match skipComment (skipBlanks cs) with
  | [] => some []
  | rest => skipBreak rest

/-- What follows blanks, comments and line breaks; `inComment` tells that a comment has begun. -/
def skipGaps (inComment : Bool) : List Char → List Char
  | '\n' :: rest => skipGaps false rest
  | '\r' :: '\n' :: rest => skipGaps false rest
  | c :: rest =>
    if inComment then if isPrintable c then skipGaps true rest else c :: rest
    else if isBlank c then skipGaps false rest
    else if c = '#' then skipGaps true rest
    else c :: rest
  | [] => []

/-! ## Strings -/

/-- The value of a hexadecimal digit. -/
def hexValue? (c : Char) : Option Nat :=
  if '0' ≤ c ∧ c ≤ '9' then some (c.toNat - 48)
  else if 'a' ≤ c ∧ c ≤ 'f' then some (c.toNat - 87)
  else if 'A' ≤ c ∧ c ≤ 'F' then some (c.toNat - 55)
  else none

/-- The character with a number in hexadecimal digits. -/
def charOfHex (ds : List Char) : Option Char := do
  let n ← ds.foldlM (fun n d => (hexValue? d).map (n * 16 + ·)) 0
  if n.isValidChar then some (Char.ofNat n) else none

/-- The character of an escape by letter. -/
def escaped? (c : Char) : Option Char :=
  if c = '\x22' ∨ c = '\\' then some c
  else if c = 'b' then some '\x08'
  else if c = 'f' then some '\x0C'
  else if c = 'n' then some '\n'
  else if c = 'r' then some '\r'
  else if c = 't' then some '\t'
  else none

/-- Puts a character before what a reader read. -/
def put (c : Char) (read : Option (List Char × List Char)) : Option (List Char × List Char) :=
  read.map fun (text, rest) => (c :: text, rest)

/-- **A string between quotes**, after the first. -/
def scanBasic : List Char → Option (List Char × List Char)
  | '\x22' :: rest => some ([], rest)
  | '\\' :: 'u' :: a :: b :: c :: d :: rest => (charOfHex [a, b, c, d]).bind fun e => put e (scanBasic rest)
  | '\\' :: 'U' :: a :: b :: c :: d :: e :: f :: g :: h :: rest =>
    (charOfHex [a, b, c, d, e, f, g, h]).bind fun e => put e (scanBasic rest)
  | '\\' :: c :: rest => (escaped? c).bind fun e => put e (scanBasic rest)
  | c :: rest => if isPrintable c && c ≠ '\\' then put c (scanBasic rest) else none
  | [] => none

/-- A string between apostrophes, after the first. -/
def scanLiteral : List Char → Option (List Char × List Char)
  | '\x27' :: rest => some ([], rest)
  | c :: rest => if isPrintable c then put c (scanLiteral rest) else none
  | [] => none

/-- The end of a string between three marks, after those: up to two more marks belong to the string. -/
def closeMarks (mark : Char) : List Char → List Char × List Char
  | a :: b :: rest =>
    if a = mark ∧ b = mark then ([mark, mark], rest) else if a = mark then ([mark], b :: rest) else ([], a :: b :: rest)
  | [a] => if a = mark then ([mark], []) else ([], [a])
  | [] => ([], [])

/-- A backslash at the end of a line, blanks apart, joins the next line to it. -/
def endsLine (cs : List Char) : Bool := (skipBreak (skipBlanks cs)).isSome

/-- **A string between three quotes**, after those; `joining` tells that blanks and line breaks are skipped. -/
def scanBasicLines (joining : Bool) : List Char → Option (List Char × List Char)
  | '\x22' :: '\x22' :: '\x22' :: rest => some (closeMarks '\x22' rest)
  | '\r' :: '\n' :: rest => if joining then scanBasicLines true rest else put '\n' (scanBasicLines false rest)
  | '\\' :: 'u' :: a :: b :: c :: d :: rest =>
    (charOfHex [a, b, c, d]).bind fun e => put e (scanBasicLines false rest)
  | '\\' :: 'U' :: a :: b :: c :: d :: e :: f :: g :: h :: rest =>
    (charOfHex [a, b, c, d, e, f, g, h]).bind fun e => put e (scanBasicLines false rest)
  | '\\' :: c :: rest =>
    if endsLine (c :: rest) then scanBasicLines true (c :: rest)
    else (escaped? c).bind fun e => put e (scanBasicLines false rest)
  | c :: rest =>
    if joining && (isBlank c || c = '\n') then scanBasicLines true rest
    else if (isPrintable c && c ≠ '\\') || c = '\n' then put c (scanBasicLines false rest)
    else none
  | [] => none

/-- A string between three apostrophes, after those. -/
def scanLiteralLines : List Char → Option (List Char × List Char)
  | '\x27' :: '\x27' :: '\x27' :: rest => some (closeMarks '\x27' rest)
  | '\r' :: '\n' :: rest => put '\n' (scanLiteralLines rest)
  | c :: rest => if isPrintable c || c = '\n' then put c (scanLiteralLines rest) else none
  | [] => none

/-- The text after a line break, if it begins with one. -/
def afterBreak (cs : List Char) : List Char := (skipBreak cs).getD cs

/-- **A string of any kind.** -/
def scanString : List Char → Option (List Char × List Char)
  | '\x22' :: '\x22' :: '\x22' :: rest => scanBasicLines false (afterBreak rest)
  | '\x27' :: '\x27' :: '\x27' :: rest => scanLiteralLines (afterBreak rest)
  | '\x22' :: rest => scanBasic rest
  | '\x27' :: rest => scanLiteral rest
  | _ => none

/-! ## Keys -/

/-- A character of a key without marks. -/
def isKeyChar (c : Char) : Bool := c.isAlphanum || c = '_' || c = '-'

/-- A key: a string on one line, or characters without marks. -/
def scanKeyPart : List Char → Option (String × List Char)
  | '\x22' :: rest => (scanBasic rest).map fun (k, r) => (String.ofList k, r)
  | '\x27' :: rest => (scanLiteral rest).map fun (k, r) => (String.ofList k, r)
  | cs =>
    let k := cs.takeWhile isKeyChar
    if k.isEmpty then none else some (String.ofList k, cs.dropWhile isKeyChar)

/-- Keys with dots between them, at most `room` of them. -/
def scanKeys : Nat → List Char → Option (List String × List Char)
  | 0, _ => none
  | room + 1, cs => do
    let (k, rest) ← scanKeyPart (skipBlanks cs)
    match skipBlanks rest with
    | '.' :: rest => (scanKeys room rest).map fun (ks, r) => (k :: ks, r)
    | rest => some ([k], rest)

/-- The nesting of keys, arrays and tables stays below this depth. -/
def maxDepth : Nat := 80

/-- **A key of one part or more.** -/
def scanKey (cs : List Char) : Option (List String × List Char) := scanKeys (maxDepth - 1) cs

end DeployBoard.Toml
