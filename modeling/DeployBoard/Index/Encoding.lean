import DeployBoard.Index.Record
import DeployBoard.Json.Value

/-!
# `Index.Encoding` — the index as JSON

The backend writes the index as one object with a member for each repository. A record is an object, whose unknown
members are skipped and whose missing members have defaults, or an array of the fields in their order, which may
stop early. Tags may be `null` for none. A known member may not occur twice in a record; of two
repositories with one name the later counts.

`Index.encode` writes records as objects with all four fields.
-/

namespace DeployBoard

namespace Json

/-- The text of a string. -/
def text? : Json → Option String
  | .string text => text
  | _ => none

/-- The value of a truth value. -/
def bool? : Json → Option Bool
  | .bool b => some b
  | _ => none

/-- A list of tags: an array of strings, or `null` for none. -/
def tags? : Json → Option (List String)
  | .null => some []
  | .array items => items.mapM text?
  | _ => none

/-- The members named `name` of an object's members: none, one, or no answer when there are more. -/
def member? (members : List (Option String × Json)) (name : String) : Option (Option Json) :=
  match members.filter (·.1 = some name) with
  | [] => some none
  | [m] => some (some m.2)
  | _ => none

/-- A field that may be missing. -/
def orDefault {α : Type} (value? : Json → Option α) (default : α) : Option Json → Option α
  | none => some default
  | some v => value? v

/-- The record of its four fields, each of which may be missing. -/
def recordOfFields (tags pinnedTag pinnedTagValue autoDeploy : Option Json) : Option Record := do
  let tags ← orDefault tags? [] tags
  let pinnedTag ← orDefault text? "" pinnedTag
  let pinnedTagValue ← orDefault text? "" pinnedTagValue
  let autoDeploy ← orDefault bool? false autoDeploy
  some { tags, pinnedTag, pinnedTagValue, autoDeploy }

/-- **A record**, written as an object or as an array. -/
def record? : Json → Option Record
  | .object members =>
    if members.all (·.1.isSome) then do
      recordOfFields (← member? members "tags") (← member? members "pinned_tag")
        (← member? members "pinned_tag_value") (← member? members "auto_deploy")
    else none
  | .array items =>
    if items.length ≤ 4 then recordOfFields items[0]? items[1]? items[2]? items[3]? else none
  | _ => none

/-- A member of the index: a name and a record. -/
def entry? (member : Option String × Json) : Option (String × Record) :=
  member.1.bind fun name => (record? member.2).map fun record => (name, record)

/-- **An index.** -/
def index? : Json → Option Index
  | .object members => (members.mapM entry?).map Catalog.ofList
  | _ => none

/-- A record as an object of its four fields. -/
def ofRecord (record : Record) : Json :=
  .object
    [(some "tags", .array (record.tags.map fun t => .string (some t))),
     (some "pinned_tag", .string (some record.pinnedTag)),
     (some "pinned_tag_value", .string (some record.pinnedTagValue)),
     (some "auto_deploy", .bool record.autoDeploy)]

/-- An index as an object. -/
def ofIndex (index : Index) : Json :=
  .object (index.entries.map fun (name, record) => (some name, ofRecord record))

end Json

/-- **Reads an index** from the text of a reply. -/
def Index.decode? (body : String) : Option Index := (Json.parse? body).bind Json.index?

/-- **Writes an index** as compact JSON. -/
def Index.encode (index : Index) : String := String.ofList (Json.ofIndex index).render

end DeployBoard
