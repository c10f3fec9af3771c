import DeployBoard.Toml.Number
import DeployBoard.Toml.Table

/-!
# `Toml.Document` — a configuration file as a table

A file is read line by line: a header opens a table, and a key with its value adds to the table that is open. Values
inside brackets may go over several lines, tables in braces may not.
-/

namespace DeployBoard.Toml

/-- A scalar as an item. -/
def Scalar.item : Scalar → Item
  | .boolean b => .boolean b
  | .integer n => .integer n
  | .float => .float
  | .datetime => .datetime

/-! ## Values -/

/-- The name of a key, and the names before its last dot. -/
def splitKey (ks : List String) : Option (List String × String) := ks.getLast?.map fun name => (ks.dropLast, name)

mutual

/-- **Reads a value.** `depth` bounds how deeply arrays and tables may still be nested, and `fuel` the length. -/
def scanValue : Nat → Nat → List Char → Option (Item × List Char)
  | 0, _, _ => none
  | fuel + 1, depth, cs =>
    match cs with
    | '\x22' :: _ => (scanString cs).map fun (s, r) => (.string (String.ofList s), r)
    | '\x27' :: _ => (scanString cs).map fun (s, r) => (.string (String.ofList s), r)
    | '[' :: rest =>
      match depth with
      | 0 => none
      | depth + 1 => (scanItems fuel depth rest).map fun (items, r) => (.array items, r)
    | '\x7b' :: rest =>
      match depth with
      | 0 => none
      | depth + 1 =>
        match skipBlanks rest with
        | '\x7d' :: r => some (.table .braces [], r)
        | r =>
          (scanPairs fuel depth [] r).map fun (entries, r) => (.table .braces entries, r)
    | _ => (scanScalar cs).map fun (s, r) => (s.item, r)

/-- Reads the items of an array up to its closing bracket. A comma may follow the last. -/
def scanItems : Nat → Nat → List Char → Option (List Item × List Char)
  | 0, _, _ => none
  | fuel + 1, depth, cs =>
    match skipGaps false cs with
    | ']' :: r => some ([], r)
    | r => do
      let (item, r) ← scanValue fuel depth r
      match skipGaps false r with
      | ',' :: r => (scanItems fuel depth r).map fun (items, r) => (item :: items, r)
      | ']' :: r => some ([item], r)
      | _ => none

/-- Reads keys with values up to a closing brace. -/
def scanPairs : Nat → Nat → Entries → List Char → Option (Entries × List Char)
  | 0, _, _, _ => none
  | fuel + 1, depth, es, cs => do
    let (ks, r) ← scanKey cs
    match r with
    | '=' :: r =>
      let (item, r) ← scanValue fuel depth (skipBlanks r)
      let (path, name) ← splitKey ks
      let es ← (addPair path name item .header es).bind Item.entries?
      match skipBlanks r with
      | ',' :: r => scanPairs fuel depth es r
      | '\x7d' :: r => some (es, r)
      | _ => none
    | _ => none

end

/-! ## Lines -/

/-- **What has been read**: the table of the file, and the names that lead to the table that is open. -/
structure Document where
  root : Entries := []
  opened : List String := []

/-- Adds a key and its value to the open table. -/
def Document.add (d : Document) (path : List String) (name : String) (item : Item) : Option Document :=
  ((changeAt false (addPair path name item) d.opened .header d.root).bind Item.entries?).map fun root => { d with root }

/-- Reads a header after its brackets, of which there are one or two. -/
def Document.readHeader (d : Document) (isList : Bool) (cs : List Char) : Option (Document × List Char) := do
  let (ks, r) ← scanKey cs
  let (path, name) ← splitKey ks
  let r ←
    match r with
    | ']' :: ']' :: r => if isList then some r else none
    | ']' :: r => if isList then none else some r
    | _ => none
  let root ← ((if isList then openElement else openTable) path name d.root).bind Item.entries?
  let r ← skipLineEnd r
  some ({ root, opened := ks }, r)

/-- Reads a key with its value. -/
def Document.readPair (d : Document) (cs : List Char) : Option (Document × List Char) := do
  let (ks, r) ← scanKey cs
  match r with
  | '=' :: r =>
    let r := skipBlanks r
    let (item, r) ← scanValue (2 * r.length + 2) (maxDepth - 1) r
    let (path, name) ← splitKey ks
    let d ← d.add path name item
    let r ← skipLineEnd r
    some (d, r)
  | _ => none

/-- Reads lines; every line is shorter than what is left, so the length bounds their number. -/
def Document.readLines : Nat → Document → List Char → Option Document
  | 0, _, _ => none
  | fuel + 1, d, cs =>
    match skipBlanks cs with
    | [] => some d
    | '#' :: r => (skipLineEnd ('#' :: r)).bind (d.readLines fuel)
    | '\n' :: r => d.readLines fuel r
    | '\r' :: r => (skipBreak ('\r' :: r)).bind (d.readLines fuel)
    | '[' :: '[' :: r => (d.readHeader true r).bind fun (d, r) => d.readLines fuel r
    | '[' :: r => (d.readHeader false r).bind fun (d, r) => d.readLines fuel r
    | r => (d.readPair r).bind fun (d, r) => d.readLines fuel r

/-- **Reads a configuration file**, if it is one. A byte order mark may stand before it. -/
def parse? (text : String) : Option Entries :=
  let cs := text.toList
  let cs := if cs.head? = some '\uFEFF' then cs.tail else cs
  (({} : Document).readLines (cs.length + 1) cs).map (·.root)

end DeployBoard.Toml
