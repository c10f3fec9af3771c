import DeployBoard.Settings.Basic
import DeployBoard.Text.Blank
import DeployBoard.Text.CaseTable
import DeployBoard.Text.Lines

/-!
# `Settings.DotEnv` — variables from a `.env` file

A `.env` file next to the program's working directory, or above it, sets variables of the environment that are not set yet. It
has a variable on each line; quotes may carry a value over several lines. In a value, backslashes and quotes
are read, and a dollar sign puts in the value of another variable. The file is read up to the first line that
is not well-formed.
-/

namespace DeployBoard.DotEnv

open Text

/-! ## Lines -/

/-- **Where the end of a line stands** among quotes and backslashes. -/
inductive LineState where
  | plain | blank | escape
  | weak | weakEscape
  | strong | strongEscape
  deriving DecidableEq, Repr

/-- The state outside quotes after a character. -/
def openedBy (c : Char) : LineState :=
  if c = '\\' then .escape else if c = '\x22' then .weak else if c = '\x27' then .strong else .plain

/-- The state after one more character; nothing when a comment begins with it. -/
def LineState.next (state : LineState) (c : Char) : Option LineState :=
  match state with
  | .blank => if c = '#' then none else some (openedBy c)
  | .escape => some .plain
  | .plain => some (if isBlank c && c ≠ '\n' && c ≠ '\r' then .blank else openedBy c)
  | .weak => some (if c = '\\' then .weakEscape else if c = '\x22' then .plain else .weak)
  | .weakEscape => some .weak
  | .strong => some (if c = '\\' then .strongEscape else if c = '\x27' then .plain else .strong)
  | .strongEscape => some .strong

/-- Reads a line: the characters before a comment, and the state at the end if there is no comment. -/
def readLine (state : LineState) : List Char → List Char × Option LineState
  | [] => ([], some state)
  | c :: cs =>
    match state.next c with
    | none => ([], none)
    | some next =>
      let (text, last) := readLine next cs
      (c :: text, last)

/-- A line without its line break. -/
def withoutBreak (cs : List Char) : List Char :=
  if cs.getLast? = some '\n' then
    let cs := cs.dropLast
    if cs.getLast? = some '\r' then cs.dropLast else cs
  else cs

/-- **Puts lines together** whose quotes are open at their end. Nothing stands for what cannot be read, and ends
    the list. -/
def joinLines (text : List Char) (state : LineState) : List InputLine → List (Option (List Char))
  | [] => if state = .plain then [] else [none]
  | l :: rest =>
    match l.text with
    | none => [none]
    | some cs =>
      let line := if l.ended then cs ++ ['\n'] else cs
      if (trimStart (text ++ line)).head? = some '#' then some [] :: joinLines [] .plain rest
      else
        match readLine state line with
        | (kept, none) => some (text ++ kept) :: joinLines [] .plain rest
        | (_, some .plain) => some (withoutBreak (text ++ line)) :: joinLines [] .plain rest
        | (_, some state) => joinLines (text ++ line) state rest

/-! ## Values -/

/-- What a dollar sign has begun. -/
inductive Reference where
  | none
  /-- A name without braces, in reverse. -/
  | bare (name : List Char)
  /-- A name in braces, in reverse. -/
  | braced (name : List Char)
  deriving DecidableEq, Repr

/-- **How far a value has been read.** The text is in reverse. -/
structure ValueState where
  text : List Char := []
  strong : Bool := false
  weak : Bool := false
  escaped : Bool := false
  finished : Bool := false
  reference : Reference := .none

/-- A character of a name after a dollar sign. -/
def isNameChar (c : Char) : Bool := c.isAlphanum || (0x80 ≤ c.toNat && cased.has c)

/-- Puts the value of a variable in; the name is in reverse. -/
def ValueState.refer (s : ValueState) (env : Environment) (name : List Char) : ValueState :=
  { s with text := ((env (String.ofList name.reverse)).getD "").toList.reverse ++ s.text, reference := .none }

/-- One more character outside a reference. -/
def ValueState.read (s : ValueState) (c : Char) : ValueState :=
  if c = '$' then { s with reference := .bare [] }
  else if s.weak then
    if c = '\x22' then { s with weak := false }
    else if c = '\\' then { s with escaped := true }
    else { s with text := c :: s.text }
  else if c = '\x27' then { s with strong := true }
  else if c = '\x22' then { s with weak := true }
  else if c = '\\' then { s with escaped := true }
  else if c = ' ' ∨ c = '\t' then { s with finished := true }
  else { s with text := c :: s.text }

/-- One more character. -/
def ValueState.step (env : Environment) (s : ValueState) (c : Char) : Option ValueState :=
  if s.finished then if c = ' ' ∨ c = '\t' then some s else none
  else if s.escaped then
    let s := { s with escaped := false }
    if ['\\', '\x27', '\x22', '$', ' '].contains c then some { s with text := c :: s.text }
    else if c = 'n' then some { s with text := '\n' :: s.text }
    else none
  else if s.strong then some (if c = '\x27' then { s with strong := false } else { s with text := c :: s.text })
  else
    match s.reference with
    | .none => some (s.read c)
    | .bare name =>
      if isNameChar c then some { s with reference := .bare (c :: name) }
      else if c = '\x7b' ∧ name = [] then some { s with reference := .braced [] }
      else
        let s := s.refer env name
        some (if c = '$' then { s with reference := .bare [] } else { s with text := c :: s.text })
    | .braced name =>
      if isNameChar c then some { s with reference := .braced (c :: name) }
      else if c = '\x7d' then some (s.refer env name)
      else some { s with reference := .braced (c :: name) }

/-- Reads a value; a comment may follow it after a blank. -/
def readValue (env : Environment) (s : ValueState) : List Char → Option ValueState
  | [] => some s
  | c :: cs => if s.finished && c = '#' then some s else (s.step env c).bind fun s => readValue env s cs

/-- **The text of a value.** -/
def value? (env : Environment) (cs : List Char) : Option String := do
  let s ← readValue env {} cs
  if s.strong || s.weak then none
  else
    match s.reference with
    | .none => some (String.ofList s.text.reverse)
    | .bare name => some (String.ofList (s.refer env name).text.reverse)
    | .braced _ => none

/-! ## Variables -/

/-- A key: a letter or an underscore, and then letters, digits, underscores and dots. -/
def readKey (cs : List Char) : Option (List Char × List Char) :=
  if cs.head?.any fun c => c.isAlpha || c = '_' then
    let isKeyChar (c : Char) : Bool := c.isAlphanum || c = '_' || c = '.'
    some (cs.takeWhile isKeyChar, cs.dropWhile isKeyChar)
  else none

/-- What follows an equals sign and blanks. -/
def afterEquals (cs : List Char) : Option (List Char) :=
  match cs with
  | '=' :: rest => some (trimStart rest)
  | _ => none

/-- A key and what follows its equals sign. The word `export` may stand before the key. -/
def readAssignment (cs : List Char) : Option (List Char × List Char) := do
  let (key, rest) ← readKey cs
  let rest := trimStart rest
  match afterEquals rest with
  | some value => some (key, value)
  | none =>
    if key = "export".toList then
      let (key, rest) ← readKey rest
      (afterEquals (trimStart rest)).map fun value => (key, value)
    else none

/-- What a line sets: nothing on a blank line or a comment; and no answer when it is not well-formed. -/
def readVariable (env : Environment) (line : List Char) : Option (Option (String × String)) :=
  let cs := trimStart (trimEnd line)
  if cs.isEmpty || cs.head? = some '#' then some none
  else
    (readAssignment cs).bind fun (key, value) =>
      if value.isEmpty || value.head? = some '#' then some (some (String.ofList key, ""))
      else (value? env value).map fun text => some (String.ofList key, text)

/-! ## Files -/

/-- Reads lines: `env` is the environment so far, and `seen` what the file has said so far. -/
def loadLines (env seen : Environment) : List (Option (List Char)) → Environment
  | some line :: rest =>
    match readVariable (fun name => (env name).or (seen name)) line with
    | none => env
    | some none => loadLines env seen rest
    | some (some (key, value)) =>
      loadLines (fun name => if name = key then (env name).or (some value) else env name)
        (fun name => if name = key then some value else seen name) rest
  | _ => env

/-- **The environment with the variables of a file.** Variables that are set stay as they are. -/
def load (env : Environment) (bytes : List Nat) : Environment :=
  let bytes := match bytes with
    | 0xEF :: 0xBB :: 0xBF :: rest => rest
    | bytes => bytes
  loadLines env (fun _ => none) (joinLines [] .plain (inputLines bytes))

/-- **The names that a file mentions**, among other words. Loading it asks the environment for no others. -/
def mentioned (bytes : List Nat) : List String :=
  let text := String.ofList (decodeUtf8Lossy bytes)
  text.splitToList (fun c => !isNameChar c) ++ text.splitToList fun c => isBlank c || "=$\x7b\x7d\x22\x27".contains c

/-- The paths of a `.env` file in a directory and above it; the parts of the directory are in reverse. -/
def pathsFrom : List String → List String
  | [] => ["/.env"]
  | part :: rest => ("/" ++ "/".intercalate ((part :: rest).reverse ++ [".env"])) :: pathsFrom rest

/-- **Where a `.env` file may lie**, the nearest first. -/
def candidates (workingDirectory : String) : List String :=
  pathsFrom ((workingDirectory.splitOn "/").filter (· ≠ "")).reverse

end DeployBoard.DotEnv
