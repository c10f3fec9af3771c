/-!
# `Toml.Table` — the tables of a configuration file

A configuration file is a table of named items, and items may be tables again. A table can come about in four ways
(`TableKind`), and the way decides what may still be added to it:

* by its own header: keys may follow that header, and it may have no second one;
* by the header of a table inside it: it may still have its own header;
* by a key with dots: more keys with the same beginning may follow, but no header;
* in braces: nothing may be added.

`addPair`, `openTable` and `openElement` are the three ways to add; each gives nothing where the rules forbid it.
-/

namespace DeployBoard.Toml

/-- **How a table came about.** -/
inductive TableKind where
  | header | parent | dotted | braces
  deriving DecidableEq, Repr

/-- **An item.** The tables of a list of tables stand in reverse: the first is the one that is added to. -/
inductive Item where
  | string (text : String)
  | integer (n : Int)
  | boolean (b : Bool)
  | float
  | datetime
  | array (items : List Item)
  | table (kind : TableKind) (entries : List (String × Item))
  | tables (elements : List (List (String × Item)))

/-- The items of a table, by name. -/
abbrev Entries := List (String × Item)

/-- Puts another item under a name that is there. -/
def replaceEntry (name : String) (item : Item) : Entries → Entries
  | [] => []
  | (n, i) :: rest => if n = name then (n, item) :: rest else (n, i) :: replaceEntry name item rest

/-- **Changes the table that is reached by names**, which is made if it is not there. With `dots` the names come from a
    key with dots, and may not lead through a table that has its own header. -/
def changeAt (dots : Bool) (change : TableKind → Entries → Option Item) :
    List String → TableKind → Entries → Option Item
  | [], kind, es => change kind es
  | name :: names, kind, es =>
    match es.lookup name with
    | none =>
      (changeAt dots change names (if dots then .dotted else .parent) []).map fun item =>
        .table kind (es ++ [(name, item)])
    | some (.table inner entries) =>
      if inner = .braces ∨ (dots = true ∧ inner = .header) then none
      else (changeAt dots change names inner entries).map fun item => .table kind (replaceEntry name item es)
    | some (.tables (last :: before)) =>
      (changeAt dots change names .header last).bind fun
        | .table _ entries => some (.table kind (replaceEntry name (.tables (entries :: before)) es))
        | _ => none
    | some _ => none

/-- Adds an item under a new name. -/
def addEntry (name : String) (item : Item) (kind : TableKind) (es : Entries) : Option Item :=
  if (es.lookup name).isSome then none else some (.table kind (es ++ [(name, item)]))

/-- **Adds a key and its value.** A key with dots adds only to tables that came about by dots. -/
def addPair (path : List String) (name : String) (item : Item) (kind : TableKind) (es : Entries) : Option Item :=
  changeAt true
    (fun kind es => if path.isEmpty || kind = .dotted then addEntry name item kind es else none)
    path kind es

/-- **Opens the table of a header.** -/
def openTable (path : List String) (name : String) (root : Entries) : Option Item :=
  changeAt false
    (fun kind es =>
      match es.lookup name with
      | none => addEntry name (.table .header []) kind es
      | some (.table .parent entries) => some (.table kind (replaceEntry name (.table .header entries) es))
      | some _ => none)
    path .header root

/-- **Opens the next element of a list of tables.** -/
def openElement (path : List String) (name : String) (root : Entries) : Option Item :=
  changeAt false
    (fun kind es =>
      match es.lookup name with
      | none => addEntry name (.tables [[]]) kind es
      | some (.tables elements) => some (.table kind (replaceEntry name (.tables ([] :: elements)) es))
      | some _ => none)
    path .header root

/-- The entries of a table. -/
def Item.entries? : Item → Option Entries
  | .table _ entries => some entries
  | _ => none

end DeployBoard.Toml
