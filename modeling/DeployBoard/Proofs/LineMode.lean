import DeployBoard.LineMode
import DeployBoard.Proofs.Query
import DeployBoard.Proofs.View

/-!
# `Proofs.LineMode` — line mode lists what the dashboard displays

Line mode puts the words of a `/list` line into a set of terms as they are. The dashboard trims each term, takes its
lower case, leaves out those chosen already, and puts what it has then into a set of terms; and it narrows the index
anew after each of them. Both come to the same set (`Query.terms_addTerms`), so both show the same
(`list_prints_display`).
-/

namespace DeployBoard

open Text

/-- **The terms of a `/list` line are its words.** -/
theorem LineCommand.parse_list {terms : List String}
    (hwords : ∀ term ∈ terms, term ≠ "" ∧ ∀ c ∈ term.toList, isBlank c = false) :
    LineCommand.parse (" ".intercalate ("/list" :: terms)) = some (.list terms) := by
  have hread : words (" ".intercalate ("/list" :: terms)) = "/list" :: terms := by
    refine words_intercalate fun w hw => ?_
    rcases List.mem_cons.mp hw with rfl | hterm
    · exact ⟨by decide, no_blank_of_all (by decide)⟩
    · exact hwords w hterm
  unfold LineCommand.parse
  rw [hread]
  rfl

/-- What is displayed after terms are chosen in a dashboard that has just had its first poll. -/
theorem Dashboard.display_poll_addTerms (now : String) (index : Index) (chosen : List String) :
    (Dashboard.run {} (.poll now (.updated index) :: chosen.map .addTerm)).display =
      index.filterTerms (Terms.ofList (chosen.map trim)) := by
  have hpoll : Dashboard.run {} (.poll now (.updated index) :: chosen.map .addTerm) =
      (Dashboard.step {} (.poll now (.updated index))).run (chosen.map .addTerm) := by
    unfold Dashboard.run
    rw [List.foldl_cons]
  have hquery : (Dashboard.step {} (.poll now (.updated index))).query = {} := Dashboard.step_query {} _
  have hindex : (Dashboard.step {} (.poll now (.updated index))).index = index := Dashboard.refilter_index _
  have hderived : Dashboard.Derived (Dashboard.run {} (.poll now (.updated index) :: chosen.map .addTerm)) :=
    Dashboard.Reachable.derived ⟨_, rfl⟩
  obtain ⟨hterms, hkept⟩ := Dashboard.run_addTerms (Dashboard.step {} (.poll now (.updated index))) chosen
  rw [hderived, hpoll, hterms, hkept, hquery, hindex, Query.terms_addTerms]

/-- **Line mode and the dashboard agree on filtering.** The answer to `/list` with some words, when the backend has
    given `index`, is the listing of what a dashboard displays that had `index` with its first poll and then had the same
    words chosen as terms, in any order and as often as one likes. -/
theorem list_prints_display (now : String) (index : Index) (terms chosen : List String)
    (hwords : ∀ term ∈ terms, term ≠ "" ∧ ∀ c ∈ term.toList, isBlank c = false)
    (hsame : ∀ term, term ∈ chosen ↔ term ∈ terms) :
    LineMode.listed terms (.ok index) =
        .out (Dashboard.run {} (.poll now (.updated index) :: chosen.map .addTerm)).display.listing ∧
      ∀ (client : Client) (backend : Http.Backend), (client.fetch.run backend).1 = .ok index →
        (LineMode.respondLine client (" ".intercalate ("/list" :: terms))).map (fun d => (d.run backend).1) =
          some [.out (Dashboard.run {} (.poll now (.updated index) :: chosen.map .addTerm)).display.listing] := by
  -- Words have nothing to trim, and a set of terms does not tell their order or repetition.
  have htrim : chosen.map trim = chosen := by
    have hkept : chosen.map trim = chosen.map id :=
      List.map_congr_left fun term hterm => trim_of_no_blank (hwords term ((hsame term).mp hterm)).2
    rw [hkept, List.map_id]
  have hset : Terms.ofList terms = Terms.ofList chosen := by
    refine Terms.eq_of_mem_iff fun t => ?_
    simp only [Terms.mem_ofList_iff, hsame]
  have hlisted : LineMode.listed terms (.ok index) =
      .out (Dashboard.run {} (.poll now (.updated index) :: chosen.map .addTerm)).display.listing := by
    rw [Dashboard.display_poll_addTerms, htrim, ← hset]
    rfl
  refine ⟨hlisted, fun client backend hfetched => ?_⟩
  have hrespond : LineMode.respondLine client (" ".intercalate ("/list" :: terms)) =
      some (do return [LineMode.listed terms (← client.fetch)]) := by
    unfold LineMode.respondLine
    rw [LineCommand.parse_list hwords]
    rfl
  rw [hrespond, Option.map_some, Http.Dialogue.run_bind, hfetched, Http.Dialogue.run_pure, hlisted]

/-- An index of three repositories. -/
def sampleListing : Index :=
  Catalog.ofList [("api", { tags := ["v1", "v2"], autoDeploy := true }), ("cron", {}), ("web", { tags := ["r-1"] })]

/-- Capitals, another order and repetitions make no difference, and the listing is not that of the whole index. -/
theorem list_prints_display_of_two_terms :
    LineMode.listed ["V1", "Web"] (.ok sampleListing) =
        .out (Dashboard.run {} (.poll "12:00:00" (.updated sampleListing) ::
          ["Web", "V1", "Web"].map .addTerm)).display.listing ∧
      LineMode.listed ["V1", "Web"] (.ok sampleListing) ≠ .out sampleListing.listing := by
  have hchecked : ∀ term ∈ ["V1", "Web"], term ≠ "" ∧ term.toList.all (!isBlank ·) = true := by decide
  have hwords : ∀ term ∈ ["V1", "Web"], term ≠ "" ∧ ∀ c ∈ term.toList, isBlank c = false :=
    fun term hterm => ⟨(hchecked term hterm).1, no_blank_of_all (hchecked term hterm).2⟩
  have hsame : ∀ term, term ∈ ["Web", "V1", "Web"] ↔ term ∈ ["V1", "Web"] := by simp [or_comm]
  exact ⟨(list_prints_display "12:00:00" sampleListing _ _ hwords hsame).1, by decide +kernel⟩

end DeployBoard
