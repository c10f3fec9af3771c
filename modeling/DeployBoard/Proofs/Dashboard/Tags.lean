import DeployBoard.Proofs.Dashboard.History
import DeployBoard.Proofs.Index.Vocabulary

/-!
# `Proofs.Dashboard.Tags` — only polls change the tags

A record's tags say what there is to choose from. Commands change other fields: the record that a command leaves has
the tags of the one before it, and so has the record that its failure puts back (`SameTags`). Hence between two
successful polls the tags of every repository stay as they are (`tags_step`), and with them the vocabulary of the
search (`searchTerms_step`). An edit of the query does not touch the index at all, so what can be searched for never depends on
what is searched for (`vocabulary_lists_once`).
-/

namespace DeployBoard

namespace Dashboard

/-- **Every command under way has left its repository's tags as they were.** -/
def SameTags (s : Dashboard) : Prop := ∀ p ∈ s.pending, p.optimistic.tags = p.previous.tags

variable {s t : Dashboard}

theorem Transition.sameTags {what : Option Happening} (h : Transition s t what) (hs : SameTags s) : SameTags t := by
  intro q hq
  cases h with
  | quiet _ hpending _ => exact hs q (hpending ▸ hq)
  | polled _ _ hpending _ => exact hs q (hpending ▸ hq)
  | begun p _ _ hoptimistic _ hpending _ =>
      rw [hpending] at hq
      rcases List.mem_append.mp hq with hold | hnew
      · exact hs q hold
      · rw [List.mem_singleton.mp hnew, hoptimistic, Action.apply_tags]
  | accepted _ _ _ hpending _ => exact hs q (List.mem_of_mem_filter (hpending ▸ hq))
  | withdrawn _ _ _ _ hpending _ => exact hs q (List.mem_of_mem_filter (hpending ▸ hq))
  | overtaken _ _ _ _ _ _ hpending _ => exact hs q (List.mem_of_mem_filter (hpending ▸ hq))

theorem Reachable.sameTags (h : Reachable s) : SameTags s := by
  obtain ⟨ops, rfl⟩ := h
  refine run_invariant (fun s op hs => (transition_step s op).sameTags hs) ?_ ops
  intro p hp
  exact absurd hp List.not_mem_nil

/-- The tags of a repository, if it is in the index. -/
def tags? (index : Index) (name : String) : Option (List String) := (index.get? name).map (·.tags)

/-- Writing a record with the tags of the one that it replaces leaves all tags. -/
theorem tags?_insert {index : Index} {repo : String} {old new : Record} (hold : index.get? repo = some old)
    (htags : new.tags = old.tags) (name : String) : tags? (index.insert repo new) name = tags? index name := by
  unfold tags?
  rw [Catalog.get?_insert]
  by_cases hname : name = repo
  · rw [if_pos hname, hname, hold, Option.map_some, Option.map_some, htags]
  · rw [if_neg hname]

theorem Transition.tags?_eq {what : Option Happening} (h : Transition s t what) (hs : SameTags s)
    (hpoll : ∀ index, what ≠ some (.polled index)) (name : String) : tags? t.index name = tags? s.index name := by
  cases h with
  | quiet hindex _ _ => rw [hindex]
  | polled index _ _ _ => exact absurd rfl (hpoll index)
  | begun p _ hprevious hoptimistic hindex _ _ =>
      rw [hindex]
      exact tags?_insert hprevious (by rw [hoptimistic, Action.apply_tags]) name
  | accepted _ _ hindex _ _ => rw [hindex]
  | withdrawn p hp hfound hindex _ _ =>
      rw [hindex]
      exact tags?_insert hfound (hs p hp).symm name
  | overtaken _ _ _ _ _ hindex _ _ => rw [hindex]

/-- **Without a successful poll the tags stay.** -/
theorem tags_step (hs : SameTags s) {op : Operation} (hop : op.bringsIndex = false) (name : String) :
    tags? (s.step op).index name = tags? s.index name :=
  (transition_step s op).tags?_eq hs (not_polled_of_bringsIndex hop s) name

/-! ## The vocabulary -/

/-- What can be searched for is told by the names and their tags. -/
theorem searchable_eq (index : Index) :
    index.searchable = (index.map fun _ record => record.tags).names ++
      (index.map fun _ record => record.tags).values.flatten := by
  unfold Catalog.searchable
  rw [Catalog.names_map, List.flatMap_def]
  congr 2
  unfold Catalog.values
  rw [Catalog.entries_map, List.map_map, List.map_map]
  rfl

/-- Where all tags are the same, so are the tables of them. -/
theorem map_tags_congr {a b : Index} (h : ∀ name, tags? a name = tags? b name) :
    a.map (fun _ record => record.tags) = b.map fun _ record => record.tags := by
  apply Catalog.ext_get?
  intro name
  rw [Catalog.get?_map, Catalog.get?_map]
  exact h name

/-- Where all tags are the same, so are the repositories. -/
theorem names_congr {a b : Index} (h : ∀ name, tags? a name = tags? b name) : a.names = b.names := by
  rw [← Catalog.names_map a fun _ record => record.tags, map_tags_congr h, Catalog.names_map]

theorem vocabulary_congr {a b : Index} (h : ∀ name, tags? a name = tags? b name) : a.vocabulary = b.vocabulary := by
  unfold Catalog.vocabulary
  rw [searchable_eq, searchable_eq, map_tags_congr h]

/-- **Without a successful poll the vocabulary stays.** -/
theorem searchTerms_step (hs : SameTags s) {op : Operation} (hop : op.bringsIndex = false) :
    (s.step op).searchTerms = s.searchTerms := vocabulary_congr (tags_step hs hop)

/-- **An edit of the query leaves the vocabulary.** -/
theorem searchTerms_of_queryOf? {op : Operation} {query : Query} (hquery : op.queryOf? s = some query) :
    (s.step op).searchTerms = s.searchTerms := by
  unfold searchTerms
  rw [(step_of_quiet (happening?_of_queryOf? hquery)).1]

/-- **The vocabulary lists every name and tag once**, in the order in which they first come up when the names are gone through and
    then the tags of every record; all the names come first. What a dashboard offers for its search is the vocabulary of
    the whole index, and no edit of the query changes it. -/
theorem vocabulary_lists_once (index : Index) :
    ListsOnce (index.names ++ index.values.flatMap (·.tags)) index.vocabulary ∧ index.names <+: index.vocabulary ∧
      ∀ (s : Dashboard) (op : Operation) (query : Query), s.index = index → op.queryOf? s = some query →
        s.searchTerms = index.vocabulary ∧ (s.step op).searchTerms = s.searchTerms := by
  refine ⟨listsOnce_eraseDups index.searchable, index.names_prefix_vocabulary, ?_⟩
  intro s op query hindex hquery
  refine ⟨?_, searchTerms_of_queryOf? hquery⟩
  unfold searchTerms
  rw [hindex]

/-- A name that is a tag as well comes among the names, and a tag comes where it is first found. -/
example : Catalog.vocabulary (Catalog.ofList
    [("api", { tags := ["v1", "v2", "v1"] }), ("v3", { tags := ["api"] }), ("web", { tags := ["v2", "v3", "r-1"] })]) =
      ["api", "v3", "web", "v1", "v2", "r-1"] := by
  decide

end Dashboard

end DeployBoard
