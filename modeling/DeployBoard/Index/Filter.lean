import DeployBoard.Index.Record
import DeployBoard.Index.Terms

/-!
# `Index.Filter` — narrowing the index to a search

A search keeps a repository for its tags or for its name. A repository with tags that are hit is kept with exactly
those tags; one of which only the name is hit is kept whole. Without terms nothing is filtered.

`get?_filterTerms` states the filter name by name.
-/

namespace DeployBoard

/-- What a search keeps of one repository. -/
def Record.narrow? (terms : Terms) (name : String) (record : Record) : Option Record :=
  let hit := terms.pick record.tags
  if !hit.isEmpty then some { record with tags := hit }
  else if terms.hits name then some record
  else none

/-- **The index narrowed to a search.** -/
def Catalog.filterTerms (index : Index) (terms : Terms) : Index :=
  if terms.isEmpty then index else index.filterMap (Record.narrow? terms)

/-- The filter, name by name. -/
theorem Catalog.get?_filterTerms (index : Index) (terms : Terms) (name : String) :
    (index.filterTerms terms).get? name =
      if terms.isEmpty then index.get? name else (index.get? name).bind (Record.narrow? terms name) := by
  unfold filterTerms
  split <;> simp

/-! ## Every searchable text -/

/-- The repository names and then the tags of every record, in index order, with repetitions. -/
def Catalog.searchable (index : Index) : List String := index.names ++ index.values.flatMap (·.tags)

/-- **The vocabulary**: every name and tag once, at its first place. -/
def Catalog.vocabulary (index : Index) : List String := index.searchable.eraseDups

end DeployBoard
