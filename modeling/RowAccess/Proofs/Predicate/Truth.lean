import Mathlib.Data.List.Basic
import Mathlib.Tactic.Common
import RowAccess.Predicate

/-!
# The truth of predicates

A predicate that was moved to the end of an edge is as true of a row as it was of the row at the end; where
no row is attached, it is as true as of the empty row. So it is with a predicate that was moved through a
chain of edges.
-/

namespace RowAccess

/-- The row that predicates moved to the end of an edge are about. -/
def Row.beyond (r : Row) (edge : String) : Row := (r.parent? edge).getD .empty

theorem Row.follow?_append (r : Row) (front back : List String) :
    r.follow? (front ++ back) = (r.follow? front).bind fun next => next.follow? back := by
  induction front generalizing r with
  | nil => rfl
  | cons edge front ih =>
    rw [List.cons_append, Row.follow?, Row.follow?, Option.bind_assoc]
    exact congrArg _ (funext fun next => ih next)

/-- The row that predicates moved to the end of a chain of edges are about. -/
def Row.reached (r : Row) (edges : List String) : Row := (r.follow? edges).getD .empty

/-- The last edge is followed from the row at the end of the others. -/
theorem Row.reached_concat (r : Row) (edges : List String) (edge : String) :
    r.reached (edges ++ [edge]) = (r.reached edges).beyond edge := by
  have hlast : ∀ next : Row, next.follow? [edge] = next.parent? edge := fun next => by
    rw [Row.follow?]
    exact Option.bind_fun_some (next.parent? edge)
  simp only [Row.reached, Row.beyond, Row.follow?_append, hlast]
  cases r.follow? edges with
  | none => rfl
  | some next => rfl

namespace FieldPath

theorem follow?_empty : ∀ {edges : List String}, edges ≠ [] → Row.empty.follow? edges = none
  | [], h => absurd rfl h
  | _ :: _, _ => rfl

theorem resolve_empty (p : FieldPath) : p.resolve .empty = none := by
  unfold resolve
  by_cases h : p.edges = []
  · rw [h]
    rfl
  · rw [follow?_empty h]
    rfl

theorem resolve_rebase (p : FieldPath) (edge : String) (r : Row) :
    (p.rebase edge).resolve r = p.resolve (r.beyond edge) := by
  unfold Row.beyond
  cases hp : r.parent? edge with
  | none =>
    rw [Option.getD_none, resolve_empty]
    simp only [resolve, rebase, Row.follow?, hp, Option.bind_none]
  | some next => simp only [resolve, rebase, Row.follow?, hp, Option.bind_some, Option.getD_some]

end FieldPath

namespace Predicate

theorem evaluate_rebase (p : Predicate) (edge : String) (r : Row) :
    (p.rebase edge).evaluate r = p.evaluate (r.beyond edge) := by
  induction p with
  | always => rfl
  | never => rfl
  | equals path value => simp only [rebase, evaluate, FieldPath.resolve_rebase]
  | not p ih => simp only [rebase, evaluate, ih]
  | and p q ihp ihq => simp only [rebase, evaluate, ihp, ihq]
  | or p q ihp ihq => simp only [rebase, evaluate, ihp, ihq]

theorem admits_rebase (p : Predicate) (edge : String) (r : Row) :
    (p.rebase edge).admits r = p.admits (r.beyond edge) := by
  rw [admits, admits, evaluate_rebase]

/-- Both parts of a conjunction must be definitely true. -/
theorem admits_and (p q : Predicate) (r : Row) :
    (and p q).admits r = (p.admits r && q.admits r) := by
  simp only [admits, evaluate]
  rcases p.evaluate r with _ | _ | _ <;> rcases q.evaluate r with _ | _ | _ <;> rfl

/-! ### Chains of edges -/

/-- The paths of a predicate's comparisons, from left to right. -/
def paths : Predicate → List FieldPath
  | always => []
  | never => []
  | equals path _ => [path]
  | not p => p.paths
  | and p q => p.paths ++ q.paths
  | or p q => p.paths ++ q.paths

theorem paths_rebase (p : Predicate) (edge : String) :
    (p.rebase edge).paths = p.paths.map (FieldPath.rebase edge) := by
  induction p with
  | always => rfl
  | never => rfl
  | equals path value => rfl
  | not p ih => exact ih
  | and p q ihp ihq => simp only [rebase, paths, ihp, ihq, List.map_append]
  | or p q ihp ihq => simp only [rebase, paths, ihp, ihq, List.map_append]

/-- The predicate moved through the edges of a list, one after the other. -/
def moved (p : Predicate) (inner : List String) : Predicate :=
  inner.foldl (fun q edge => q.rebase edge) p

theorem moved_cons (p : Predicate) (edge : String) (inner : List String) :
    p.moved (edge :: inner) = (p.rebase edge).moved inner := rfl

theorem paths_moved (p : Predicate) (inner : List String) :
    (p.moved inner).paths = p.paths.map fun path => { path with edges := inner.reverse ++ path.edges } := by
  induction inner generalizing p with
  | nil => exact (List.map_id p.paths).symm
  | cons edge inner ih =>
    rw [moved_cons, ih, paths_rebase, List.map_map]
    refine List.map_congr_left fun path _ => ?_
    simp only [Function.comp_apply, FieldPath.rebase, List.reverse_cons, List.append_assoc, List.singleton_append]

theorem evaluate_moved_reached (p : Predicate) (inner : List String) (r : Row) :
    (p.moved inner).evaluate r = p.evaluate (r.reached inner.reverse) := by
  induction inner generalizing p with
  | nil => rfl
  | cons edge inner ih =>
    -- The edge that is moved through first is the last one on the way from the row.
    rw [moved_cons, ih, evaluate_rebase, List.reverse_cons, Row.reached_concat]

/-- A predicate that was moved through edges, the innermost one first, leads each of its paths by the outermost
one. It is as true of a row as it was of the row at the end of the chain, and where an edge of the chain is not
attached, as true as of the empty row. -/
theorem evaluate_moved (p : Predicate) (inner : List String) (r : Row) :
    ((p.moved inner).evaluate r =
      match r.follow? inner.reverse with
      | some ancestor => p.evaluate ancestor
      | none => p.evaluate .empty) ∧
    (p.moved inner).paths = p.paths.map fun path => { path with edges := inner.reverse ++ path.edges } := by
  refine ⟨?_, paths_moved p inner⟩
  rw [evaluate_moved_reached, Row.reached]
  cases r.follow? inner.reverse with
  | none => rfl
  | some ancestor => rfl

example : ((equals (.own "region") (.text "eu")).moved ["customer", "order"]).paths =
    [⟨["order", "customer"], "region"⟩] := rfl

end Predicate

end RowAccess
