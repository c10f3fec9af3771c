import DeployBoard.Json.Text

/-!
# `Json.Value` — JSON values, read and written

A JSON value keeps what the board needs to know: the literal of a number is not interpreted, and a string whose code
units do not pair up has no text. Reading is strict: four blank characters, no comments, no trailing comma,
nothing after the value. Writing is compact.
-/

namespace DeployBoard

/-- **A JSON value.** A string or member name without a text is one that holds half a pair of code units. -/
inductive Json where
  | null
  | bool (b : Bool)
  | number (literal : String)
  | string (text : Option String)
  | array (items : List Json)
  | object (members : List (Option String × Json))

namespace Json

/-! ## Writing -/

/-- A string, or a member name, between quotes. -/
def renderText : Option String → List Char
  | some s => encodeText s
  | none => ['\x22', '\\', 'u', 'd', '8', '0', '0', '\x22']

/-- Puts commas between texts. -/
def commaSeparated : List (List Char) → List Char
  | [] => []
  | [t] => t
  | t :: ts => t ++ ',' :: commaSeparated ts

/-- **The compact text of a value.** -/
def render : Json → List Char
  | .null => "null".toList
  | .bool true => "true".toList
  | .bool false => "false".toList
  | .number literal => literal.toList
  | .string text => renderText text
  | .array items => '[' :: commaSeparated (items.map render) ++ [']']
  | .object members =>
    '\x7b' :: commaSeparated (members.attach.map fun ⟨(name, value), _⟩ =>
      renderText name ++ ':' :: render value) ++ ['\x7d']
termination_by v => sizeOf v
decreasing_by
  all_goals simp_wf
  · rename_i h; have := List.sizeOf_lt_of_mem h; omega
  · rename_i h; have := List.sizeOf_lt_of_mem h; simp at this; omega

/-! ## Reading -/

/-- Space, tab, line feed and carriage return. -/
def isSpace (c : Char) : Bool := c = ' ' || c = '\t' || c = '\n' || c = '\r'

/-- What follows the blanks. -/
def skipSpace (cs : List Char) : List Char := cs.dropWhile isSpace

/-- One digit or more: what follows them. -/
def skipDigits1 : List Char → Option (List Char)
  | c :: cs => if c.isDigit then some (cs.dropWhile Char.isDigit) else none
  | [] => none

/-- The fraction of a number, if there is one. -/
def skipFraction : List Char → Option (List Char)
  | '.' :: cs => skipDigits1 cs
  | cs => some cs

/-- The exponent of a number, if there is one. -/
def skipExponent : List Char → Option (List Char)
  | e :: cs =>
    if e = 'e' ∨ e = 'E' then
      match cs with
      | '+' :: ds => skipDigits1 ds
      | '-' :: ds => skipDigits1 ds
      | ds => skipDigits1 ds
    else some (e :: cs)
  | [] => some []

/-- The digits before the point: a zero stands alone. -/
def skipInteger : List Char → Option (List Char)
  | '0' :: cs => if cs.head?.any Char.isDigit then none else some cs
  | cs => skipDigits1 cs

/-- **The grammar of numbers**: what follows one. -/
def skipNumber (cs : List Char) : Option (List Char) :=
  (skipInteger (if cs.head? = some '-' then cs.tail else cs)).bind fun r => (skipFraction r).bind skipExponent

mutual

/-- Reads a value, blanks before it included. -/
def scanValue : Nat → List Char → Option (Json × List Char)
  | 0, _ => none
  | fuel + 1, cs =>
    match skipSpace cs with
    | 'n' :: 'u' :: 'l' :: 'l' :: rest => some (.null, rest)
    | 't' :: 'r' :: 'u' :: 'e' :: rest => some (.bool true, rest)
    | 'f' :: 'a' :: 'l' :: 's' :: 'e' :: rest => some (.bool false, rest)
    | '\x22' :: rest => (scanText rest).map fun (text, r) => (.string text, r)
    | '[' :: rest =>
      match skipSpace rest with
      | ']' :: r => some (.array [], r)
      | r => (scanItems fuel r).map fun (items, r) => (.array items, r)
    | '\x7b' :: rest =>
      match skipSpace rest with
      | '\x7d' :: r => some (.object [], r)
      | r => (scanMembers fuel r).map fun (members, r) => (.object members, r)
    | rest => (skipNumber rest).map fun r => (.number (String.ofList (rest.take (rest.length - r.length))), r)

/-- Reads the items of an array up to its closing bracket. -/
def scanItems : Nat → List Char → Option (List Json × List Char)
  | 0, _ => none
  | fuel + 1, cs =>
    (scanValue fuel cs).bind fun (v, rest) =>
      match skipSpace rest with
      | ',' :: r => (scanItems fuel r).map fun (vs, r) => (v :: vs, r)
      | ']' :: r => some ([v], r)
      | _ => none

/-- Reads the members of an object up to its closing brace. -/
def scanMembers : Nat → List Char → Option (List (Option String × Json) × List Char)
  | 0, _ => none
  | fuel + 1, cs =>
    match skipSpace cs with
    | '\x22' :: rest =>
      (scanText rest).bind fun (name, rest) =>
        match skipSpace rest with
        | ':' :: rest =>
          (scanValue fuel rest).bind fun (v, rest) =>
            match skipSpace rest with
            | ',' :: r => (scanMembers fuel r).map fun (ms, r) => ((name, v) :: ms, r)
            | '\x7d' :: r => some ([(name, v)], r)
            | _ => none
        | _ => none
    | _ => none

end

/-- **Reads a whole text as one value.** Every call of the reader consumes a character before it calls itself, so the
    length of the text bounds the depth. -/
def parse? (s : String) : Option Json :=
  let cs := s.toList
  match scanValue (2 * cs.length + 2) cs with
  | some (v, rest) => if (skipSpace rest).isEmpty then some v else none
  | none => none

end Json

end DeployBoard
