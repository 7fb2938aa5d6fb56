import Mathlib.Data.List.Basic
import Mathlib.Tactic.Common
import RowAccess.Proofs.Access.Transparency
import RowAccess.Proofs.Registry.Chain
import RowAccess.Proofs.Restriction

/-!
# Which rows are admitted

An inclusive restriction admits a row if the row meets the demands at the ends of all chains of edges that
visit no type twice, whatever the graph of types is and whatever was kept from earlier requests.
-/

namespace RowAccess

open RowAccess.Facts (Chain Meets visited)

/-- The rows let through are those that a restriction admits, in order. -/
theorem Access.filterRows_eq_filter {α : Type} (x : Restriction) (row : α → Row) (rows : List α) :
    filterRows x row rows = rows.filter fun r => x.admits (row r) := by
  rw [filterRows, Admitted.toList_eq_remaining]
  simp only [Admitted.remaining, Restriction.predicate_admits]

/-- What an inclusive restriction of a registry means. -/
theorem Registry.means_inclusive {r : Registry} {tokens : String → List String} {entity : String}
    {content : Option Predicate} (h : r.inclusiveMeaning tokens entity = .ok content) :
    Facts.Means tokens content (Facts.reached r.facts [] entity) := by
  unfold inclusiveMeaning at h
  cases hm : Facts.meaning r.facts tokens (r.typeBound + 1) [] entity with
  | error f => rw [hm] at h; cases h
  | ok y =>
    rw [hm] at h
    cases h
    exact Facts.means_meaning List.not_mem_nil hm

namespace Access

theorem filter_answer (a : Access) (line : Nat) (source : Option SourceRef) (entity : String)
    (rows : List Row) :
    (a.perform line (.filter source entity rows)).2 =
      (a.inclusiveRestriction line source entity).2.map fun x =>
        .rows (rows.filter fun r => x.admits r) := by
  have hrows : ∀ x : Restriction, filterRows x id rows = rows.filter fun r => x.admits r :=
    fun x => filterRows_eq_filter x id rows
  show (a.inclusiveRestriction line source entity).2.map (fun x => Answer.rows (filterRows x id rows)) = _
  simp only [hrows]

end Access

end RowAccess
