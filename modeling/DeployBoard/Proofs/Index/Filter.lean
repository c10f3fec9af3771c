import DeployBoard.Index.Filter
import DeployBoard.Proofs.Index.Terms

/-!
# `Proofs.Index.Filter` — what a search leaves of the index

A search finds a repository by its name or by one of its tags (`Record.Found`), and narrows its tags to those that are hit
or, where none is, leaves them all (`Record.Narrowed`). `narrow?_eq_some_iff` says that this is all that the filter does to
a record, and `filterTerms_pointwise` what it makes of the index, name by name.

The laws of the filter follow from that without looking into it again. What is narrowed once is not narrowed further by
the same terms (`filterTerms_filterTerms`); with more terms more repositories are found, and with the terms of two searches
those that either of them finds (`mem_names_filterTerms_union`); and what is hit of the names and tags stays in sight
(`searchable_filterTerms`).
-/

namespace DeployBoard

variable {index : Index} {terms more : Terms} {item name : String} {record kept : Record}

namespace Catalog

theorem mem_values_iff : record ∈ index.values ↔ ∃ name, index.get? name = some record := by
  unfold values
  rw [List.mem_map]
  constructor
  · rintro ⟨⟨name, r⟩, he, rfl⟩
    exact ⟨name, get?_eq_some_iff.mpr he⟩
  · rintro ⟨name, hget⟩
    exact ⟨(name, record), get?_eq_some_iff.mp hget, rfl⟩

/-- **What can be searched for** is the name of a repository, or a tag of one. -/
theorem mem_searchable_iff :
    item ∈ index.searchable ↔
      index.contains item = true ∨ ∃ name record, index.get? name = some record ∧ item ∈ record.tags := by
  unfold searchable
  rw [List.mem_append, contains_iff_mem_names]
  simp only [List.mem_flatMap, mem_values_iff]
  constructor
  · rintro (hname | ⟨record, ⟨name, hget⟩, htag⟩)
    · exact .inl hname
    · exact .inr ⟨name, record, hget, htag⟩
  · rintro (hname | ⟨name, record, hget, htag⟩)
    · exact .inl hname
    · exact .inr ⟨record, ⟨name, hget⟩, htag⟩

theorem mem_vocabulary_iff : item ∈ index.vocabulary ↔ item ∈ index.searchable := List.mem_eraseDups

end Catalog

/-! ## One record -/

namespace Record

/-- Some tag is hit. -/
def HasHit (terms : Terms) (record : Record) : Prop := ∃ tag ∈ record.tags, terms.hits tag = true

/-- **A search finds a repository** by its name or by one of its tags. -/
def Found (terms : Terms) (name : String) (record : Record) : Prop :=
  terms.hits name = true ∨ record.HasHit terms

/-- **A record narrowed to a search**: of its tags those that are hit, in their order and as often as they stand there, or
    all of them if none is hit. The rest of the record stays. -/
structure Narrowed (terms : Terms) (record kept : Record) : Prop where
  pinnedTag : kept.pinnedTag = record.pinnedTag
  pinnedTagValue : kept.pinnedTagValue = record.pinnedTagValue
  autoDeploy : kept.autoDeploy = record.autoDeploy
  sublist : kept.tags.Sublist record.tags
  hit : record.HasHit terms → kept.tags = record.tags.filter terms.hits
  unhit : ¬ record.HasHit terms → kept.tags = record.tags

theorem pick_isEmpty_iff : (terms.pick record.tags).isEmpty = true ↔ ¬ record.HasHit terms := by
  unfold Terms.pick HasHit
  rw [List.isEmpty_iff, List.filter_eq_nil_iff, not_exists]
  simp only [not_and]

theorem narrow?_of_hit (h : record.HasHit terms) (name : String) :
    record.narrow? terms name = some { record with tags := record.tags.filter terms.hits } := by
  have hfull : (terms.pick record.tags).isEmpty = false := by
    rw [Bool.eq_false_iff, Ne, pick_isEmpty_iff]
    exact not_not_intro h
  unfold narrow?
  simp only [hfull, Bool.not_false, if_true]
  rfl

theorem narrow?_of_unhit (h : ¬ record.HasHit terms) (name : String) :
    record.narrow? terms name = if terms.hits name then some record else none := by
  unfold narrow?
  simp only [pick_isEmpty_iff.mpr h, Bool.not_true, Bool.false_eq_true, if_false]

/-- Narrowing changes the tags alone. -/
theorem Narrowed.eq_withTags (h : record.Narrowed terms kept) : kept = { record with tags := kept.tags } := by
  obtain ⟨hpinned, hvalue, hauto, _⟩ := h
  cases kept
  rw [← hpinned, ← hvalue, ← hauto]

/-- **What the filter keeps of a record**: nothing unless the search finds it, and then the record narrowed. -/
theorem narrow?_eq_some_iff :
    record.narrow? terms name = some kept ↔ record.Found terms name ∧ record.Narrowed terms kept := by
  by_cases hhit : record.HasHit terms
  · rw [narrow?_of_hit hhit, Option.some_inj]
    constructor
    · rintro rfl
      exact ⟨.inr hhit, rfl, rfl, rfl, List.filter_sublist, fun _ => rfl, fun h => absurd hhit h⟩
    · rintro ⟨_, hkept⟩
      rw [hkept.eq_withTags, hkept.hit hhit]
  · rw [narrow?_of_unhit hhit, Option.ite_none_right_eq_some, Option.some_inj]
    constructor
    · rintro ⟨hname, rfl⟩
      exact ⟨.inl hname, rfl, rfl, rfl, List.Sublist.refl _, fun h => absurd h hhit, fun _ => rfl⟩
    · rintro ⟨hfound, hkept⟩
      refine ⟨hfound.resolve_right hhit, ?_⟩
      rw [hkept.eq_withTags, hkept.unhit hhit]

/-- A record that is found is kept. -/
theorem Found.exists_kept (h : record.Found terms name) : ∃ kept, record.narrow? terms name = some kept := by
  by_cases hhit : record.HasHit terms
  · exact ⟨_, narrow?_of_hit hhit name⟩
  · refine ⟨record, ?_⟩
    rw [narrow?_of_unhit hhit, if_pos (h.resolve_right hhit)]

/-- A tag that is hit stays. -/
theorem Narrowed.mem_tags (h : record.Narrowed terms kept) (hitem : item ∈ record.tags)
    (hhit : terms.hits item = true) : item ∈ kept.tags := by
  rw [h.hit ⟨item, hitem, hhit⟩]
  exact List.mem_filter.mpr ⟨hitem, hhit⟩

theorem Narrowed.hasHit_iff (h : record.Narrowed terms kept) : kept.HasHit terms ↔ record.HasHit terms := by
  constructor
  · rintro ⟨tag, htag, hhit⟩
    exact ⟨tag, h.sublist.subset htag, hhit⟩
  · rintro ⟨tag, htag, hhit⟩
    exact ⟨tag, h.mem_tags htag hhit, hhit⟩

/-- **What is narrowed once stays** when it is narrowed by the same terms again. -/
theorem narrow?_of_kept (h : record.narrow? terms name = some kept) : kept.narrow? terms name = some kept := by
  obtain ⟨hfound, hkept⟩ := narrow?_eq_some_iff.mp h
  refine narrow?_eq_some_iff.mpr ⟨hfound.imp_right hkept.hasHit_iff.mpr, rfl, rfl, rfl, List.Sublist.refl _, ?_, ?_⟩
  · intro hhit
    rw [hkept.hit (hkept.hasHit_iff.mp hhit), List.filter_filter]
    simp only [Bool.and_self]
  · exact fun _ => rfl

/-- More terms find more. -/
theorem Found.mono (h : record.Found terms name) (hmore : ∀ t ∈ terms, t ∈ more) : record.Found more name := by
  rcases h with hname | ⟨tag, htag, hhit⟩
  · exact .inl (Terms.hits_mono hmore hname)
  · exact .inr ⟨tag, htag, Terms.hits_mono hmore hhit⟩

/-- **The terms of two searches find** what one of the searches finds. -/
theorem found_union (a b : Terms) : record.Found (a ∪ b) name ↔ record.Found a name ∨ record.Found b name := by
  unfold Found HasHit
  simp only [Terms.hits_union, and_or_left, exists_or]
  exact or_or_or_comm

end Record

/-! ## The whole index -/

namespace Catalog

theorem filterTerms_of_isEmpty (h : terms.isEmpty = true) (index : Index) : index.filterTerms terms = index := by
  unfold filterTerms
  rw [if_pos h]

theorem get?_filterTerms_of_terms (h : terms.isEmpty = false) (index : Index) (name : String) :
    (index.filterTerms terms).get? name = (index.get? name).bind (Record.narrow? terms name) := by
  rw [get?_filterTerms, h, if_neg Bool.false_ne_true]

/-- **The filter, name by name**: under a name stands the record of the index, narrowed, if the search finds it. -/
theorem get?_filterTerms_eq_some_iff (h : terms.isEmpty = false) :
    (index.filterTerms terms).get? name = some kept ↔
      ∃ record, index.get? name = some record ∧ record.Found terms name ∧ record.Narrowed terms kept := by
  rw [get?_filterTerms_of_terms h, Option.bind_eq_some_iff]
  simp only [Record.narrow?_eq_some_iff]

/-- **What is listed** are the repositories that the search finds. -/
theorem mem_names_filterTerms_iff (h : terms.isEmpty = false) :
    name ∈ (index.filterTerms terms).names ↔ ∃ record, index.get? name = some record ∧ record.Found terms name := by
  rw [mem_names_iff, Option.isSome_iff_exists]
  simp only [get?_filterTerms_eq_some_iff h]
  constructor
  · rintro ⟨_, record, hrecord, hfound, _⟩
    exact ⟨record, hrecord, hfound⟩
  · rintro ⟨record, hrecord, hfound⟩
    obtain ⟨kept, hkept⟩ := hfound.exists_kept
    exact ⟨kept, record, hrecord, Record.narrow?_eq_some_iff.mp hkept⟩

/-- **The filter, pointwise.** Without terms the index stays as it is. With terms, a name is listed exactly when the index
    has it and the search finds it by its name or by a tag; its record is then the one of the index, narrowed; and the
    names ascend. -/
theorem filterTerms_pointwise (index : Index) (terms : Terms) :
    (terms.isEmpty = true → index.filterTerms terms = index) ∧
      (terms.isEmpty = false →
        (∀ name, name ∈ (index.filterTerms terms).names ↔
          ∃ record, index.get? name = some record ∧
            (terms.hits name = true ∨ ∃ tag ∈ record.tags, terms.hits tag = true)) ∧
        (∀ name kept, (index.filterTerms terms).get? name = some kept →
          ∃ record, index.get? name = some record ∧ record.Narrowed terms kept) ∧
        (index.filterTerms terms).names.Pairwise (· < ·)) := by
  refine ⟨fun h => filterTerms_of_isEmpty h index, fun h => ⟨fun name => mem_names_filterTerms_iff h, ?_, ?_⟩⟩
  · intro name kept hkept
    obtain ⟨record, hrecord, _, hnarrowed⟩ := (get?_filterTerms_eq_some_iff h).mp hkept
    exact ⟨record, hrecord, hnarrowed⟩
  · exact names_ascending _

/-- An index in which "V1" is a tag twice over, a part of a name, and neither. -/
def sampleIndex : Index :=
  ofList
    [("api", { tags := ["V1", "v2", "V1"], pinnedTag := "v2", pinnedTagValue := "v2" }),
     ("v1-web", { tags := ["r-1"], pinnedTagValue := "r-1", autoDeploy := true }),
     ("zoo", { tags := ["r-2"] })]

/-- "v1" finds "api" by its tags, which are narrowed, and "v1-web" by its name; "zoo" is not listed. -/
theorem filterTerms_by_tag_and_name :
    (Terms.ofList ["v1"]).isEmpty = false ∧
      (∃ kept, (sampleIndex.filterTerms (Terms.ofList ["v1"])).get? "api" = some kept ∧ kept.tags = ["V1", "V1"] ∧
        kept.pinnedTag = "v2") ∧
      "v1-web" ∈ (sampleIndex.filterTerms (Terms.ofList ["v1"])).names ∧
      "zoo" ∉ (sampleIndex.filterTerms (Terms.ofList ["v1"])).names := by
  have hterms : (Terms.ofList ["v1"]).isEmpty = false := by decide +kernel
  obtain ⟨hnames, hkept, _⟩ := (filterTerms_pointwise sampleIndex (Terms.ofList ["v1"])).2 hterms
  have hhit : (Terms.ofList ["v1"]).hits "V1" = true := by decide +kernel
  refine ⟨hterms, ?_, ?_, ?_⟩
  · have hlisted : "api" ∈ (sampleIndex.filterTerms (Terms.ofList ["v1"])).names :=
      (hnames "api").mpr ⟨_, rfl, .inr ⟨"V1", by decide, hhit⟩⟩
    obtain ⟨kept, hget⟩ := Option.isSome_iff_exists.mp (mem_names_iff.mp hlisted)
    obtain ⟨record, hrecord, hnarrowed⟩ := hkept "api" kept hget
    cases hrecord
    refine ⟨kept, hget, ?_, hnarrowed.pinnedTag⟩
    rw [hnarrowed.hit ⟨"V1", by decide, hhit⟩]
    decide +kernel
  · exact (hnames "v1-web").mpr ⟨_, rfl, .inl (by decide +kernel)⟩
  · intro hlisted
    obtain ⟨record, hrecord, hfound⟩ := (hnames "zoo").mp hlisted
    cases hrecord
    exact absurd hfound (by decide +kernel)

/-- **Filtered by the same terms again**, the index stays as it is. -/
theorem filterTerms_filterTerms (index : Index) (terms : Terms) :
    (index.filterTerms terms).filterTerms terms = index.filterTerms terms := by
  cases hterms : terms.isEmpty with
  | true => exact filterTerms_of_isEmpty hterms _
  | false =>
      apply ext_get?
      intro name
      rw [get?_filterTerms_of_terms hterms, get?_filterTerms_of_terms hterms]
      cases hrecord : (index.get? name).bind (Record.narrow? terms name) with
      | none => rfl
      | some kept =>
          obtain ⟨record, _, hkept⟩ := Option.bind_eq_some_iff.mp hrecord
          rw [Option.bind_some, Record.narrow?_of_kept hkept]

/-- **With more terms nothing leaves the list**, as long as there were terms before. -/
theorem mem_names_filterTerms_mono (h : terms.isEmpty = false) (hmore : ∀ t ∈ terms, t ∈ more)
    (hname : name ∈ (index.filterTerms terms).names) : name ∈ (index.filterTerms more).names := by
  have hmore' : more.isEmpty = false := by
    obtain ⟨t, ht⟩ := Terms.isEmpty_eq_false_iff.mp h
    exact Terms.isEmpty_eq_false_iff.mpr ⟨t, hmore t ht⟩
  obtain ⟨record, hrecord, hfound⟩ := (mem_names_filterTerms_iff h).mp hname
  exact (mem_names_filterTerms_iff hmore').mpr ⟨record, hrecord, hfound.mono hmore⟩

/-- **The terms of two searches list** what one of the searches lists. -/
theorem mem_names_filterTerms_union {a b : Terms} (ha : a.isEmpty = false) (hb : b.isEmpty = false) :
    name ∈ (index.filterTerms (a ∪ b)).names ↔
      name ∈ (index.filterTerms a).names ∨ name ∈ (index.filterTerms b).names := by
  have hab : (a ∪ b).isEmpty = false := by
    obtain ⟨t, ht⟩ := Terms.isEmpty_eq_false_iff.mp ha
    exact Terms.isEmpty_eq_false_iff.mpr ⟨t, Terms.mem_union.mpr (.inl ht)⟩
  rw [mem_names_filterTerms_iff hab, mem_names_filterTerms_iff ha, mem_names_filterTerms_iff hb]
  simp only [Record.found_union, and_or_left, exists_or]

/-- **What a search hits stays in sight.** -/
theorem searchable_filterTerms (hitem : item ∈ index.searchable) (hhit : terms.hits item = true) :
    item ∈ (index.filterTerms terms).searchable := by
  -- What hits something has a term, so the search does narrow the index.
  have hterms := Terms.isEmpty_of_hits hhit
  rw [mem_searchable_iff] at hitem ⊢
  rcases hitem with hname | ⟨name, record, hrecord, htag⟩
  · left
    obtain ⟨record, hrecord⟩ := Option.isSome_iff_exists.mp hname
    rw [contains_iff_mem_names, mem_names_filterTerms_iff hterms]
    exact ⟨record, hrecord, .inl hhit⟩
  · right
    have hfound : record.Found terms name := .inr ⟨item, htag, hhit⟩
    obtain ⟨kept, hkept⟩ := hfound.exists_kept
    have hnarrowed := (Record.narrow?_eq_some_iff.mp hkept).2
    exact ⟨name, kept, (get?_filterTerms_eq_some_iff hterms).mpr ⟨record, hrecord, hfound, hnarrowed⟩,
      hnarrowed.mem_tags htag hhit⟩

end Catalog

end DeployBoard
