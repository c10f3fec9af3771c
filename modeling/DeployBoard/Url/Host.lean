import DeployBoard.Url.Domain
import DeployBoard.Url.Percent

/-!
# `Url.Host` — hosts

A host between brackets is an address of 128 bits, given as pieces of 16 bits of which one run of zeros may be left out, and
the last two as a dotted address of 32 bits. Any other host is a domain name in which percent signs are read; and if
its last label is a number, it is an address of 32 bits, whose parts may be decimal, octal or hexadecimal.
-/

namespace DeployBoard

/-- **Why an address cannot be read.** -/
inductive UrlError where
  | relative | emptyHost | port | ipv4 | ipv6 | domain | hostCharacter
  deriving DecidableEq, Repr

/-- The message of an error. -/
def UrlError.message : UrlError → String
  | .relative => "relative URL without a base"
  | .emptyHost => "empty host"
  | .port => "invalid port number"
  | .ipv4 => "invalid IPv4 address"
  | .ipv6 => "invalid IPv6 address"
  | .domain => "invalid international domain name"
  | .hostCharacter => "invalid domain character"

namespace Url

open Text

/-- **A host.** -/
inductive Host where
  | domain (labels : List (List Char))
  | ipv4 (address : Nat)
  | ipv6 (pieces : List Nat)
  /-- The host of a scheme that this program does not know. -/
  | unknown (text : List Char)
  deriving DecidableEq, Repr

/-! ## Addresses of 32 bits -/

/-- The digits of a number in a base, all of which have to be digits of it. -/
def readBase (base : Nat) (cs : List Char) : Option Nat :=
  cs.foldlM (fun n c => (hexValue? c).bind fun d => if d < base then some (n * base + d) else none) 0

/-- **A part of an address**: hexadecimal after `0x`, octal after another zero, and else decimal. -/
def readPart (cs : List Char) : Option Nat :=
  match cs with
  | [] => none
  | '0' :: 'x' :: ds => readBase 16 ds
  | '0' :: 'X' :: ds => readBase 16 ds
  | '0' :: d :: ds => readBase 8 (d :: ds)
  | ds => readBase 10 ds

/-- The last label, or the one before it when the last is empty, is a number. -/
def endsInNumber (labels : List (List Char)) : Bool :=
  let isNumber (l : List Char) : Bool := (!l.isEmpty && l.all Char.isDigit) || (readPart l).isSome
  match labels.reverse with
  | [] => false
  | [] :: l :: _ => isNumber l
  | l :: _ => isNumber l

/-- The address of its parts: the last part fills what the others leave. -/
def ipv4OfParts (parts : List Nat) : Option Nat :=
  match parts.reverse with
  | [] => none
  | last :: before =>
    let first := before.reverse
    if first.length ≤ 3 ∧ first.all (· ≤ 255) ∧ last < Nat.pow 256 (4 - first.length) then
      some (first.foldl (fun n p => n * 256 + p) 0 * Nat.pow 256 (4 - first.length) + last)
    else none

/-- **An address of 32 bits**, of the labels of a name. -/
def readIpv4 (labels : List (List Char)) : Option Nat :=
  let labels := if labels.getLast? = some [] then labels.dropLast else labels
  if 4 < labels.length then none else (labels.mapM readPart).bind ipv4OfParts

/-! ## Addresses of 128 bits -/

/-- A piece: one to four hexadecimal digits. -/
def readPiece (cs : List Char) : Option Nat := if cs.isEmpty || 4 < cs.length then none else readBase 16 cs

/-- A decimal part of a dotted address, without leading zeros. -/
def readOctet (cs : List Char) : Option Nat :=
  if cs.isEmpty || 3 < cs.length || (cs.head? = some '0' && 1 < cs.length) then none
  else (readBase 10 cs).filter (· ≤ 255)

/-- Two pieces, of a dotted address. -/
def readDotted (cs : List Char) : Option (List Nat) :=
  match (splitAtChar '.' [] cs).mapM readOctet with
  | some [a, b, c, d] => some [a * 256 + b, c * 256 + d]
  | _ => none

/-- Pieces between colons, of which the last two may be dotted. -/
def readPieces : List (List Char) → Option (List Nat)
  | [] => some []
  | [last] => if last.contains '.' then readDotted last else (readPiece last).map ([·])
  | p :: rest => do return (← readPiece p) :: (← readPieces rest)

/-- Pieces between colons, or none. -/
def readRun (cs : List Char) : Option (List Nat) := if cs.isEmpty then some [] else readPieces (splitAtChar ':' [] cs)

/-- Cuts at the first two colons in a row; `before` holds, in reverse, what was read. -/
def splitAtGap (before : List Char) : List Char → Option (List Char × List Char)
  | ':' :: ':' :: rest => some (before.reverse, rest)
  | c :: rest => splitAtGap (c :: before) rest
  | [] => none

/-- **An address of 128 bits**, as eight pieces. -/
def readIpv6 (cs : List Char) : Option (List Nat) :=
  match splitAtGap [] cs with
  | none => (readRun cs).filter (·.length = 8)
  | some (left, right) => do
    let l ← if left.contains '.' then none else readRun left
    let r ← readRun right
    if l.length + r.length ≤ 7 then some (l ++ List.replicate (8 - l.length - r.length) 0 ++ r) else none

/-! ## Hosts -/

/-- A host between brackets, after the first. -/
def readBracketed (cs : List Char) : Except UrlError Host :=
  if cs.getLast? = some ']' then
    match readIpv6 cs.dropLast with
    | some pieces => .ok (.ipv6 pieces)
    | none => .error .ipv6
  else .error .ipv6

/-- **Reads the host** of an address on the web. -/
def readHost (cs : List Char) : Except UrlError Host :=
  match cs with
  | '[' :: rest => readBracketed rest
  | _ =>
    match domainLabels (decodeUtf8Lossy (percentDecode cs)) with
    | none => .error .domain
    | some labels =>
      if labels = [[]] then .error .emptyHost
      else if endsInNumber labels then
        match readIpv4 labels with
        | some address => .ok (.ipv4 address)
        | none => .error .ipv4
      else .ok (.domain labels)

/-- The characters that the host of an unknown scheme may not hold. -/
def forbiddenInHost (c : Char) : Bool :=
  c.toNat = 0 || ['\t', '\n', '\r', ' ', '#', '/', ':', '<', '>', '?', '@', '[', '\\', ']', '^', '|'].contains c

/-- Reads the host of an unknown scheme. -/
def readUnknownHost (cs : List Char) : Except UrlError Host :=
  match cs with
  | '[' :: rest => readBracketed rest
  | _ => if cs.any forbiddenInHost then .error .hostCharacter else .ok (.unknown cs)

end Url

end DeployBoard
