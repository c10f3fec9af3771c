import DeployBoard.Proofs.Index.Filter
import DeployBoard.Proofs.Query
import DeployBoard.Proofs.Text.Parts
import DeployBoard.Proofs.View

/-!
# `Proofs.Dashboard.Search` — what a search finds

A term and the text that is searched are brought to lower case apart from each other. A text that contains the term as it
was typed is found when the term reads in it as it does alone: when the same of its capital sigmas end a word
(`literal_part_found_iff`). A term with a capital sigma at its edge is not found in every text that contains it
(`word_in_capitals_not_found`); any other term is.

A search that is repeated changes nothing, and a search for more finds more: with the terms of two searches the
repositories of both are listed, so no choice of a further term takes a repository off the list
(`search_for_more_lists_more`).
-/

namespace DeployBoard

open Text

variable {t item name term : String}

/-! ## What contains the text that is typed -/

/-- **Whoever searches for `t` finds `item`**, whatever else is searched for: each set of terms with `t` among them hits it
    and picks it out of every list, as often as it stands there; and while `t` is typed, every repository of this name or
    with this tag is listed. -/
structure Finds (t item : String) : Prop where
  hit : ∀ terms : Terms, (terms.insert t).hits item = true
  picked : ∀ (terms : Terms) candidates, ((terms.insert t).pick candidates).count item = candidates.count item
  listed : ∀ s : Dashboard, Dashboard.Reachable s → s.query.freeText = t → ∀ name record,
    s.index.get? name = some record → item = name ∨ item ∈ record.tags → s.display.contains name = true

/-- **A repository that the search finds is listed.** -/
theorem Dashboard.Reachable.listed_of_found {s : Dashboard} (h : Reachable s) {record : Record}
    (hrecord : s.index.get? name = some record) (hfound : record.Found s.query.terms name) :
    s.display.contains name = true := by
  have hterms : s.query.terms.isEmpty = false := by
    rcases hfound with hname | ⟨tag, _, hhit⟩
    · exact Terms.isEmpty_of_hits hname
    · exact Terms.isEmpty_of_hits hhit
  rw [h.derived, Catalog.contains_iff_mem_names, Catalog.mem_names_filterTerms_iff hterms]
  exact ⟨record, hrecord, hfound⟩

/-- What is found in every search is told by the lower case of both texts. -/
theorem finds_iff (hfilled : isBlankText t = false) :
    Finds t item ↔ (lowercase t).toList <:+: (lowercase item).toList := by
  constructor
  · intro h
    have hhit := h.hit Terms.empty
    rw [Terms.hits_insert_iff hfilled] at hhit
    exact hhit.resolve_left Bool.false_ne_true
  · intro hpart
    have hhit : ∀ terms : Terms, (terms.insert t).hits item = true := fun terms =>
      (Terms.hits_insert_iff hfilled).mpr (.inr hpart)
    refine ⟨hhit, fun terms candidates => List.count_filter (hhit terms), ?_⟩
    intro s hs htyped name record hrecord hitem
    have hterms : s.query.terms.hits item = true := by
      unfold Query.terms
      rw [htyped]
      exact hhit _
    apply hs.listed_of_found hrecord
    rcases hitem with rfl | htag
    · exact .inl hterms
    · exact .inr ⟨item, htag, hterms⟩

/-- **When a text is found by a part of it.** A term that is not blank is found in a text exactly when its lower case is a
    part of that of the text. If the text contains the term as it is, that is so wherever the same sigmas of the term end a
    word in the text and in the term alone. The terms that are found in every text that contains them are the
    steady ones. -/
theorem literal_part_found_iff (hfilled : isBlankText t = false) :
    (∀ item, Finds t item ↔ (lowercase t).toList <:+: (lowercase item).toList) ∧
      (∀ item before after, item.toList = before ++ t.toList ++ after →
        SameEnds before.reverse after [] [] t.toList → Finds t item) ∧
      ((∀ item, t.toList <:+: item.toList → Finds t item) ↔ Steady t.toList) := by
  refine ⟨fun _ => finds_iff hfilled, ?_, ?_⟩
  · intro item before after hsplit hends
    rw [finds_iff hfilled, toList_lowercase, toList_lowercase, hsplit]
    exact lowercaseChars_part hends
  · rw [← lowercase_part_iff]
    constructor
    · intro h before after
      have hpart : t.toList <:+: (String.ofList (before ++ t.toList ++ after)).toList := by
        rw [String.toList_ofList]
        exact ⟨before, after, rfl⟩
      have hfound := (finds_iff hfilled).mp (h _ hpart)
      rwa [toList_lowercase, toList_lowercase, String.toList_ofList] at hfound
    · rintro h item ⟨before, after, hsplit⟩
      rw [finds_iff hfilled, toList_lowercase, toList_lowercase, ← hsplit]
      exact h before after

/-- "ΟΔΟΣ" is found in "ΟΔΟΣ-1", where it ends with the word, and "rC" in everything that contains it. -/
theorem whole_word_found :
    isBlankText "ΟΔΟΣ" = false ∧ Finds "ΟΔΟΣ" "ΟΔΟΣ-1" ∧ isBlankText "rC" = false ∧
      ∀ item : String, "rC".toList <:+: item.toList → Finds "rC" item := by
  have hgreek : isBlankText "ΟΔΟΣ" = false := by decide
  have hlatin : isBlankText "rC" = false := by decide
  refine ⟨hgreek, ?_, hlatin, ?_⟩
  · exact (literal_part_found_iff hgreek).2.1 "ΟΔΟΣ-1" [] ['-', '1'] (by decide) (by decide +kernel)
  · exact (literal_part_found_iff hlatin).2.2.mpr (steady_of_not_mem (by decide))

/-- **The beginning of a word in capitals is not found**: alone, "ΟΔΥΣ" ends with a final sigma, but not in
    "ΟΔΥΣΣΕΥΣ". So the term misses this text, and while it is typed the repository of this name is not listed. -/
theorem word_in_capitals_not_found :
    isBlankText "ΟΔΥΣ" = false ∧ "ΟΔΥΣ".toList <:+: "ΟΔΥΣΣΕΥΣ".toList ∧
      (Terms.empty.insert "ΟΔΥΣ").hits "ΟΔΥΣΣΕΥΣ" = false ∧
      (Terms.empty.insert "ΟΔΥΣ").pick ["ΟΔΥΣΣΕΥΣ"] = [] ∧
      (Dashboard.run {} [.poll "12:00:00" (.updated (Catalog.ofList [("ΟΔΥΣΣΕΥΣ", {})])),
        .setFreeText "ΟΔΥΣ"]).display.names = [] := by
  refine ⟨by decide, by decide, ?_, ?_, ?_⟩
  · decide +kernel
  · decide +kernel
  · decide +kernel

/-! ## Searches repeated and extended -/

/-- What was searched for is searched for after a choice. -/
theorem Query.mem_terms_addTerm {q : Query} (h : t ∈ q.terms) (term : String) : t ∈ (q.addTerm term).1.terms := by
  rw [mem_terms_iff] at h ⊢
  rw [addTerm_freeText]
  refine h.imp_right ?_
  rintro ⟨chosen, hchosen, hlower⟩
  exact ⟨chosen, mem_addTerm_iff.mpr (.inr hchosen), hlower⟩

/-- **A search repeated changes nothing, and a search for more lists more.** Filtered by the same terms twice, the index is
    as it is filtered once. With the terms of two searches, neither of them empty, those repositories are listed that one
    of the two lists. So no choice of a further term, when something is searched for already, takes a repository off the
    list, neither for a query alone nor on a dashboard. -/
theorem search_for_more_lists_more (index : Index) (a b : Terms) :
    (index.filterTerms b).filterTerms b = index.filterTerms b ∧
      (a.isEmpty = false → b.isEmpty = false → ∀ name, name ∈ (index.filterTerms (a ∪ b)).names ↔
        name ∈ (index.filterTerms a).names ∨ name ∈ (index.filterTerms b).names) ∧
      (∀ q : Query, q.isEmpty = false → ∀ term, ∀ name ∈ (index.filterTerms q.terms).names,
        name ∈ (index.filterTerms (q.addTerm term).1.terms).names) ∧
      ∀ s, Dashboard.Reachable s → s.query.isEmpty = false → ∀ term, ∀ name ∈ s.display.names,
        name ∈ (s.step (.addTerm term)).display.names := by
  have hchoice : ∀ (index : Index) (q : Query), q.isEmpty = false → ∀ term,
      ∀ name ∈ (index.filterTerms q.terms).names, name ∈ (index.filterTerms (q.addTerm term).1.terms).names :=
    fun index q hq term name hname =>
      Catalog.mem_names_filterTerms_mono hq (fun _ ht => Query.mem_terms_addTerm ht term) hname
  refine ⟨Catalog.filterTerms_filterTerms index b, ?_, hchoice index, ?_⟩
  · exact fun ha hb _ => Catalog.mem_names_filterTerms_union ha hb
  · intro s hs hq term name hname
    have hindex : (s.step (.addTerm term)).index = s.index := (Dashboard.step_of_quiet rfl).1
    rw [hs.derived] at hname
    rw [(hs.step _).derived, hindex, Dashboard.step_addTerm_query]
    exact hchoice s.index s.query hq term name hname

/-- On the sample board the searches for "api" and "r-" together list "web", and with "api" typed, "v1" chosen as well
    leaves "api" on the list. -/
theorem listed_after_further_choice :
    (Terms.ofList ["api"]).isEmpty = false ∧ (Terms.ofList ["r-"]).isEmpty = false ∧
      "web" ∈ (Dashboard.sampleBoard.index.filterTerms (Terms.ofList ["api"] ∪ Terms.ofList ["r-"])).names ∧
      (Dashboard.sampleBoard.step (.setFreeText "api")).query.isEmpty = false ∧
      "api" ∈ ((Dashboard.sampleBoard.step (.setFreeText "api")).step (.addTerm "v1")).display.names := by
  obtain ⟨_, hunion, _, hchoice⟩ :=
    search_for_more_lists_more Dashboard.sampleBoard.index (Terms.ofList ["api"]) (Terms.ofList ["r-"])
  have hreachable := Dashboard.sampleBoard_reachable.step (.setFreeText "api")
  have hapi : (Terms.ofList ["api"]).isEmpty = false := by decide +kernel
  have htag : (Terms.ofList ["r-"]).isEmpty = false := by decide +kernel
  have hquery : (Dashboard.sampleBoard.step (.setFreeText "api")).query.isEmpty = false := by decide +kernel
  refine ⟨hapi, htag, (hunion hapi htag "web").mpr (.inr (by decide +kernel)), hquery, ?_⟩
  exact hchoice _ hreachable hquery "v1" "api" (by decide +kernel)

end DeployBoard
