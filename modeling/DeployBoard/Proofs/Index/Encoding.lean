import DeployBoard.Index.Encoding
import DeployBoard.Proofs.Json.Grammar

/-!
# `Proofs.Index.Encoding` — an index is read back as it was written

Writing an index goes through a JSON value, and reading it comes back the same way: the text is the value's compact
spelling and is read as that value (`parse?_render`), and the value is the index's own (`index?_ofIndex`). A record is
written with all four members, so none of the defaults is needed to read it (`record?_ofRecord`); the names
stand in their order, so no entry replaces another (`Catalog.ofList_entries`).
-/

namespace DeployBoard

namespace Json

variable {α β : Type}

/-- What is undone item by item is undone in a list. -/
theorem mapM_map_of_inverse {f : β → Option α} {g : α → β} (h : ∀ a, f (g a) = some a) (as : List α) :
    (as.map g).mapM f = some as := by
  induction as with
  | nil => rfl
  | cons a as ih => rw [List.map_cons, List.mapM_cons, h, ih]; rfl

theorem tags?_strings (tags : List String) : tags? (.array (tags.map fun t => .string (some t))) = some tags :=
  mapM_map_of_inverse (f := text?) (g := fun t => .string (some t)) (fun _ => rfl) tags

/-- **A record is read from its own value.** -/
theorem record?_ofRecord (record : Record) : record? (ofRecord record) = some record := by
  show recordOfFields (some (.array (record.tags.map fun t => .string (some t)))) _ _ _ = some record
  rw [recordOfFields, orDefault, tags?_strings]
  rfl

/-- **An index is read from its own value.** -/
theorem index?_ofIndex (index : Index) : index? (ofIndex index) = some index := by
  have hentries : (index.entries.map fun e => (some e.1, ofRecord e.2)).mapM entry? = some index.entries := by
    refine mapM_map_of_inverse (fun e => ?_) index.entries
    show (record? (ofRecord e.2)).map (fun record => (e.1, record)) = some e
    rw [record?_ofRecord, Option.map_some]
  show ((index.entries.map fun e => (some e.1, ofRecord e.2)).mapM entry?).map Catalog.ofList = _
  rw [hentries, Option.map_some, Catalog.ofList_entries]

/-- There are no numbers in a record. -/
theorem writable_ofRecord (record : Record) : Writable (ofRecord record) := by
  have htags : Writable (.array (record.tags.map fun t => .string (some t))) := by
    refine .array fun v hv => ?_
    obtain ⟨t, _, rfl⟩ := List.mem_map.mp hv
    exact .string _
  refine .object fun m hm => ?_
  simp only [List.mem_cons, List.not_mem_nil, or_false] at hm
  rcases hm with rfl | rfl | rfl | rfl
  · exact htags
  · exact .string _
  · exact .string _
  · exact .bool _

theorem writable_ofIndex (index : Index) : Writable (ofIndex index) := by
  refine .object fun m hm => ?_
  obtain ⟨e, _, rfl⟩ := List.mem_map.mp hm
  exact writable_ofRecord e.2

end Json

namespace Index

/-- **An index is read back as it was written.** So writing what was read from a body, whichever way the body spells
    it, gives a text that is read as the same. -/
theorem decode_encode :
    (∀ index : Index, Index.decode? index.encode = some index) ∧
    ∀ body : String, ((Index.decode? body).bind fun index => Index.decode? index.encode) = Index.decode? body := by
  have hback : ∀ index : Index, Index.decode? index.encode = some index := by
    intro index
    unfold Index.decode? Index.encode
    rw [Json.parse?_render (Json.writable_ofIndex index), Option.bind_some, Json.index?_ofIndex]
  refine ⟨hback, fun body => ?_⟩
  rw [funext hback]
  exact Option.bind_fun_some _

end Index

end DeployBoard
