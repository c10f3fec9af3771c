import DeployBoard.Proofs.Dashboard.Step
import DeployBoard.Proofs.Session.Run

/-!
# `Proofs.View` — the displayed index is a view of the whole index

`display` is stored beside the index and the query that it comes from. It is a **derived view** all the same:
after every operation it is the index filtered by the current terms, on the paths that find it again and on
those that return early. `display_run` states it for every run of a dashboard and of a session.
-/

namespace DeployBoard
namespace Dashboard

/-- **The displayed index is what the query leaves of the index.** -/
def Derived (s : Dashboard) : Prop := s.display = s.index.filterTerms s.query.terms

theorem derived_start : Derived {} := rfl

theorem derived_refilter (s : Dashboard) : Derived s.refilter := by
  unfold Derived
  rw [refilter_display, refilter_index, refilter_query]

/-- What is displayed is in the index. -/
theorem Derived.index_contains {s : Dashboard} (h : Derived s) {name : String}
    (hname : s.display.contains name = true) : s.index.contains name = true := by
  unfold Catalog.contains at hname ⊢
  rw [h, Catalog.get?_filterTerms] at hname
  split at hname
  · exact hname
  · cases hrecord : s.index.get? name with
    | none => rw [hrecord] at hname; cases hname
    | some record => rfl

/-! ## Every operation

An operation either ends in `refilter`, whatever it has changed before, or leaves the index, the query and the
displayed index alone. -/

theorem Stepped.derived {s t : Dashboard} {op : Operation} (h : Stepped s op t) (hs : Derived s) : Derived t := by
  cases h with
  | idle => exact hs
  | requeried => exact derived_refilter _
  | polled => exact derived_refilter _
  | pollFailed => exact hs
  | moved => exact hs
  | unmoved => exact hs
  | repicked => exact hs
  | begun command previous hprevious =>
      unfold beginCommand
      rw [hprevious]
      exact derived_refilter _
  | accepted => exact hs
  | withdrawn => exact derived_refilter _
  | overtaken => exact hs

theorem derived_step (s : Dashboard) (op : Operation) (h : Derived s) : Derived (s.step op) :=
  (stepped_step s op).derived h

/-! ## Every run -/

theorem Reachable.derived {s : Dashboard} (h : Reachable s) : Derived s := by
  obtain ⟨ops, rfl⟩ := h
  exact run_invariant derived_step derived_start ops

/-- **The displayed index is the index filtered by the query**, after every run of operations, and in the
    dashboard of every session after every run of keys, events and other moves. -/
theorem display_run (ops : List Operation) (title url theme : String) (moves : List Session.Move) :
    (run {} ops).display = (run {} ops).index.filterTerms (run {} ops).query.terms ∧
      ((Session.start title url theme).run moves).dashboard.display =
        ((Session.start title url theme).run moves).dashboard.index.filterTerms
          ((Session.start title url theme).run moves).dashboard.query.terms := by
  refine ⟨run_invariant derived_step derived_start ops, ?_⟩
  have hlead : Reachable ((Session.start title url theme).run moves).dashboard :=
    (Session.start title url theme).leads_run moves
  exact hlead.derived

end Dashboard
end DeployBoard
