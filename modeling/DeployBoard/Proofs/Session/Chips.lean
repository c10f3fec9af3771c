import DeployBoard.Proofs.Session.Popup
import DeployBoard.Proofs.Text.Neighbours

/-!
# `Proofs.Session.Chips` — taking a suggestion as a term

Tab takes the highlighted suggestion as a term of the search. Two things are expected of that. The suggestion should
stay in sight, whatever else is searched for; and it does, because the term is a part of it
(`accepted_suggestion_shown`). And the term should be a new one, because what is chosen is not suggested.

The second rests on two comparisons that are not the same. What is chosen already is told from a candidate by the
letters of ASCII alone, and a term is chosen in its normal form, trimmed and in lower case. Where the two come to the
same, a suggestion is always new; every other text can be chosen and be suggested again
(`suggestion_new_iff`, `suggestion_offered_again`).
-/

namespace DeployBoard

open Text

variable {item input : String}

/-! ## The two comparisons -/

/-- The normal form of a term holds no capital of ASCII. -/
theorem Query.toLower_normalTerm (term : String) : (normalTerm term).toLower = normalTerm term :=
  toLower_lowercase (trim term)

/-- **What tidy terms exclude** is told by the letters of ASCII. -/
theorem Query.Tidy.excludes_iff {q : Query} (h : q.Tidy) :
    q.chosen.any (equalIgnoringAsciiCase · item) = true ↔ item.toLower ∈ q.chosen := by
  have hfolded : ∀ t ∈ q.chosen, t.toLower = t := by
    intro t ht
    rw [← h.lower t ht]
    exact toLower_lowercase t
  rw [List.any_eq_true]
  constructor
  · rintro ⟨t, ht, hequal⟩
    rw [equalIgnoringAsciiCase_iff, hfolded t ht] at hequal
    exact hequal ▸ ht
  · intro hmem
    refine ⟨item.toLower, hmem, ?_⟩
    rw [equalIgnoringAsciiCase_iff]
    exact hfolded _ hmem

/-- **A term excludes the text that it was chosen as** just if its normal form is that text with the letters of ASCII
    folded. -/
theorem excludes_own_iff (item : String) :
    [Query.normalTerm item].any (equalIgnoringAsciiCase · item) = true ↔ Query.normalTerm item = item.toLower := by
  rw [List.any_cons, List.any_nil, Bool.or_false, equalIgnoringAsciiCase_iff, Query.toLower_normalTerm]

/-! ## Suggestions -/

/-- Nothing blank is suggested for what is typed. -/
theorem isBlankText_of_mem_suggest {candidates exclude : List String} {limit : Nat}
    (hinput : isBlankText input = false) (h : item ∈ suggest candidates input exclude limit) :
    isBlankText item = false := by
  obtain ⟨_, hcontains⟩ := Session.mem_suggest h
  -- A part of a blank text is blank, and what is typed is such a part.
  rw [Bool.eq_false_iff] at hinput ⊢
  intro hblank
  apply hinput
  rw [← isBlankText_trim, ← isBlankText_lowercase, isBlankText, List.all_eq_true]
  intro c hc
  rw [← isBlankText_lowercase, isBlankText, List.all_eq_true] at hblank
  exact hblank c (hcontains.subset hc)

/-- A text is suggested for itself, unless it is excluded. -/
theorem mem_suggest_self {exclude : List String} (h : exclude.any (equalIgnoringAsciiCase · item) = false) :
    item ∈ suggest [item] item exclude 1 := by
  have hcontains : occursIn (lowercase (trim item)) (lowercase item) = true :=
    occursIn_iff.mpr (occurs_lowercase_trim item)
  unfold suggest
  simp [h, hcontains]

namespace Dashboard

variable {d : Dashboard}

/-- The dashboard answers as its query does. -/
theorem addTerm_added (d : Dashboard) (term : String) : (d.addTerm term).2 = (d.query.addTerm term).2 := by
  unfold addTerm
  generalize d.query.addTerm term = answer
  cases answer
  rfl

/-- **A suggestion is a new term** just if its normal form is not chosen, and that is so if folding the letters of ASCII
    gives the normal form. -/
theorem Reachable.addTerm_suggestion (h : Reachable d) {candidates : List String} {limit : Nat}
    (hinput : isBlankText input = false) (hitem : item ∈ suggest candidates input d.query.chosen limit) :
    ((d.addTerm item).2 = true ↔ Query.normalTerm item ∉ d.query.chosen) ∧
      (Query.normalTerm item = item.toLower → (d.addTerm item).2 = true) := by
  have hfilled := isBlankText_of_mem_suggest hinput hitem
  have hadded : (d.addTerm item).2 = true ↔ Query.normalTerm item ∉ d.query.chosen := by
    rw [addTerm_added, Query.addTerm_added_iff]
    exact and_iff_right hfilled
  refine ⟨hadded, ?_⟩
  intro hsame
  rw [hadded, hsame, ← h.tidy.excludes_iff, Bool.not_eq_true]
  exact not_excluded_of_mem_suggest hitem

/-- **Which texts are new whenever they are suggested**: those of which folding the letters of ASCII gives the normal
    form. Any other can be chosen, and is suggested nevertheless. -/
theorem always_new_iff (hfilled : isBlankText item = false) :
    (∀ d, Reachable d → ∀ candidates input limit, isBlankText input = false →
      item ∈ suggest candidates input d.query.chosen limit → (d.addTerm item).2 = true) ↔
    Query.normalTerm item = item.toLower := by
  constructor
  · intro hnew
    -- The board on which nothing is chosen but the text itself.
    have hreachable : Reachable (({} : Dashboard).step (.addTerm item)) := ⟨[.addTerm item], rfl⟩
    have hchosen : (({} : Dashboard).step (.addTerm item)).query.chosen = [Query.normalTerm item] := by
      have hadded : (({} : Query).addTerm item).2 = true :=
        Query.addTerm_added_iff.mpr ⟨hfilled, List.not_mem_nil⟩
      rw [step_addTerm_query, Query.addTerm_chosen, if_pos hadded, List.nil_append]
    by_contra hdiffers
    have hoffered : [Query.normalTerm item].any (equalIgnoringAsciiCase · item) = false := by
      rw [← Bool.not_eq_true, excludes_own_iff]
      exact hdiffers
    rw [← hchosen] at hoffered
    have hadded := hnew _ hreachable [item] item 1 hfilled (mem_suggest_self hoffered)
    rw [addTerm_added, Query.addTerm_added_iff, hchosen] at hadded
    exact hadded.2 List.mem_cons_self
  · intro hsame d hd candidates input limit hinput hsuggested
    exact (hd.addTerm_suggestion hinput hsuggested).2 hsame

end Dashboard

namespace Session

variable {s : Session} {k : KeyPress}

/-! ## Tab -/

theorem press_tab (hmode : s.mode = .search) (hkey : k.key = .tab) : s.press k = s.acceptSuggestion := by
  unfold press KeyPress.quits pressSearch
  simp [hkey, hmode]

/-- **Tab with a current suggestion** takes it as a term, and empties the text of the query. -/
theorem acceptSuggestion_dashboard (hcurrent : s.completion.current? = some item) :
    s.acceptSuggestion.dashboard = (s.dashboard.step (.addTerm item)).step (.setFreeText "") := by
  unfold acceptSuggestion
  simp only [hcurrent, takeTyped, Dashboard.step]

/-- The chosen terms after Tab. -/
theorem acceptSuggestion_chosen (hcurrent : s.completion.current? = some item) :
    s.acceptSuggestion.dashboard.query.chosen = (s.dashboard.query.addTerm item).1.chosen := by
  have htext : ∀ d : Dashboard, (Dashboard.Operation.setFreeText "").queryOf? d = some (d.query.setFreeText "") :=
    fun _ => rfl
  rw [acceptSuggestion_dashboard hcurrent, Dashboard.step_query, htext, Option.getD_some, Query.setFreeText_chosen,
    Dashboard.step_addTerm_query]

/-- **The popup has a current suggestion** when it is shown while searching: a name or a tag of the index, suggested for
    what is in the box. -/
theorem Reachable.current_suggestion (h : Reachable s) (hmode : s.mode = .search)
    (hvisible : s.completion.visible = true) :
    ∃ item, s.completion.current? = some item ∧ isBlankText s.searchBox.text = false ∧
      item ∈ suggest s.dashboard.searchTerms s.searchBox.text s.dashboard.query.chosen maxSuggestions := by
  obtain ⟨item, hitem, hcurrent⟩ := h.free.formed.current hvisible
  obtain ⟨hfilled, hitems⟩ := h.offered hmode hvisible
  exact ⟨item, hcurrent, hfilled, hitems ▸ hitem⟩

/-- **When Tab adds a new term.** In every state with the popup open while searching there is a current suggestion, and
    Tab adds it behind the chosen terms, in its normal form, unless that form is chosen already. It is not if the
    suggestion in lower case is the suggestion with the letters of ASCII folded, without white space at its ends. And
    just these are the suggestions of which it never is: each other one is suggested again, for some query, after it
    was chosen. -/
theorem suggestion_new_iff (h : Reachable s) (hmode : s.mode = .search) (hvisible : s.completion.visible = true)
    (hkey : k.key = .tab) :
    ∃ item, s.completion.current? = some item ∧
      ((s.dashboard.addTerm item).2 = true ↔ Query.normalTerm item ∉ s.dashboard.query.chosen) ∧
      (Query.normalTerm item = item.toLower → (s.dashboard.addTerm item).2 = true) ∧
      ((s.press k).dashboard.query.chosen =
        if (s.dashboard.addTerm item).2 then s.dashboard.query.chosen ++ [Query.normalTerm item]
        else s.dashboard.query.chosen) ∧
      ((∀ d, Dashboard.Reachable d → ∀ candidates input limit, isBlankText input = false →
          item ∈ suggest candidates input d.query.chosen limit → (d.addTerm item).2 = true) ↔
        Query.normalTerm item = item.toLower) := by
  obtain ⟨item, hcurrent, hfilled, hitem⟩ := h.current_suggestion hmode hvisible
  obtain ⟨hadded, hfolded⟩ := h.dashboard.addTerm_suggestion hfilled hitem
  refine ⟨item, hcurrent, hadded, hfolded, ?_, ?_⟩
  · rw [press_tab hmode hkey, acceptSuggestion_chosen hcurrent, Query.addTerm_chosen, Dashboard.addTerm_added]
  · exact Dashboard.always_new_iff (isBlankText_of_mem_suggest hfilled hitem)

/-- "a" typed into the sample session suggests "api", and Tab adds it. -/
theorem suggestion_new_by_letter :
    (sampleSession.step (.key { key := .char 'a' })).completion.current? = some "api" ∧
      ((sampleSession.step (.key { key := .char 'a' })).press { key := .tab }).dashboard.query.chosen = ["api"] := by
  have hreachable := sampleSession_reachable.step (.key { key := .char 'a' })
  have hcurrent : (sampleSession.step (.key { key := .char 'a' })).completion.current? = some "api" := by
    decide +kernel
  obtain ⟨item, hitem, _, hfolded, hchosen, _⟩ := suggestion_new_iff (k := { key := .tab }) hreachable
    (by decide +kernel) (by decide +kernel) rfl
  rw [hcurrent] at hitem
  cases hitem
  refine ⟨hcurrent, ?_⟩
  rw [hchosen, if_pos (hfolded (by decide +kernel))]
  decide +kernel

/-- A session with a tag that begins with an accented capital; it is chosen, and typed again in small letters. -/
def accentedSession : Session :=
  (start "board" "http://backend" "dark").run
    [.event "12:00:00" (.poll (.updated (Catalog.ofList [("api", { tags := ["É"], pinnedTagValue := "v0" })]))),
     .key { key := .char 'é' }, .key { key := .tab }, .key { key := .char 'é' }]

theorem accentedSession_reachable : Reachable accentedSession := ⟨_, _, _, _, rfl⟩

/-- **A chosen tag is suggested again**, for its accented capital, and Tab adds nothing. -/
theorem suggestion_offered_again :
    ¬ ∀ s k, Reachable s → s.mode = .search → s.completion.visible = true → k.key = .tab →
      ∃ item, s.completion.current? = some item ∧ (s.dashboard.addTerm item).2 = true ∧
        (s.press k).dashboard.query.chosen = s.dashboard.query.chosen ++ [Query.normalTerm item] := by
  intro h
  obtain ⟨item, hitem, hadded, _⟩ := h accentedSession { key := .tab } accentedSession_reachable
    (by decide +kernel) (by decide +kernel) rfl
  have hcurrent : accentedSession.completion.current? = some "É" := by decide +kernel
  rw [hcurrent] at hitem
  cases hitem
  exact absurd hadded (by decide +kernel)

/-! ## What was taken stays in sight -/

/-- A term that is not blank is among the chosen ones after its choice. -/
theorem normalTerm_mem_addTerm (q : Query) (hfilled : isBlankText item = false) :
    Query.normalTerm item ∈ (q.addTerm item).1.chosen := Query.mem_addTerm_iff.mpr (.inl ⟨hfilled, rfl⟩)

/-- **A search hits what one of its terms was chosen as.** -/
theorem hits_of_chosen {q : Query} (hq : q.Tidy) (h : Query.normalTerm item ∈ q.chosen) :
    q.terms.hits item = true :=
  Terms.hits_iff.mpr ⟨Query.normalTerm item, hq.mem_terms_iff.mpr (.inr h), occurs_lowercase_trim item⟩

/-- **What Tab takes stays in sight.** In every state with the popup open while searching there is a current suggestion,
    and after Tab, whatever other terms are chosen, it is listed: as the name of a displayed repository, or among the
    displayed tags of one. -/
theorem accepted_suggestion_shown (h : Reachable s) (hmode : s.mode = .search) (hvisible : s.completion.visible = true)
    (hkey : k.key = .tab) :
    ∃ item, s.completion.current? = some item ∧
      ((s.press k).dashboard.display.contains item = true ∨
        ∃ name record, (s.press k).dashboard.display.get? name = some record ∧ item ∈ record.tags) := by
  obtain ⟨item, hcurrent, hinput, hitem⟩ := h.current_suggestion hmode hvisible
  have hafter : Reachable (s.press k) := h.step (.key k)
  refine ⟨item, hcurrent, Catalog.mem_searchable_iff.mp ?_⟩
  -- The index is as it was, so the suggestion is still in its vocabulary.
  have hindex : (s.press k).dashboard.index = s.dashboard.index := by
    rw [press_tab hmode hkey, acceptSuggestion_dashboard hcurrent, (Dashboard.step_of_quiet rfl).1,
      (Dashboard.step_of_quiet rfl).1]
  have hknown : item ∈ (s.press k).dashboard.index.searchable := by
    rw [hindex]
    exact Catalog.mem_vocabulary_iff.mp (mem_suggest hitem).1
  -- And its normal form is one of the terms, whether it is new or was there before.
  have hchosen : Query.normalTerm item ∈ (s.press k).dashboard.query.chosen := by
    rw [press_tab hmode hkey, acceptSuggestion_chosen hcurrent]
    exact normalTerm_mem_addTerm _ (isBlankText_of_mem_suggest hinput hitem)
  rw [hafter.dashboard.derived]
  exact Catalog.searchable_filterTerms hknown (hits_of_chosen hafter.dashboard.tidy hchosen)

/-- "v" typed into the sample session suggests the tag "v1", and after Tab some repository is displayed with it. -/
theorem accepted_suggestion_shown_by_tag :
    (sampleSession.step (.key { key := .char 'v' })).completion.current? = some "v1" ∧
      ∃ name record, "v1" ∈ record.tags ∧
        ((sampleSession.step (.key { key := .char 'v' })).press { key := .tab }).dashboard.display.get? name =
          some record := by
  have hreachable := sampleSession_reachable.step (.key { key := .char 'v' })
  have hcurrent : (sampleSession.step (.key { key := .char 'v' })).completion.current? = some "v1" := by
    decide +kernel
  obtain ⟨item, hitem, hshown⟩ := accepted_suggestion_shown (k := { key := .tab }) hreachable (by decide +kernel)
    (by decide +kernel) rfl
  rw [hcurrent] at hitem
  cases hitem
  refine ⟨hcurrent, ?_⟩
  rcases hshown with hname | ⟨name, record, hrecord, htag⟩
  · exact absurd hname (by decide +kernel)
  · exact ⟨name, record, htag, hrecord⟩

end Session
end DeployBoard
