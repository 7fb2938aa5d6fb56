import Mathlib.Data.List.Basic
import Mathlib.Tactic.Common
import RowAccess.Proofs.Source.TokenTable
import RowAccess.Registry

/-!
# Restrictions without anything kept

What a request demands depends on two things only: the tokens of its source, and the schemas and
classified fields of the types on its way. `Registry.facts` is what a registry knows of a type, whether
its builder is made already or not; `Facts.demand` and `Facts.meaning` compute restrictions from facts and
tokens alone. No slot, generation or serial number occurs in them.
-/

namespace RowAccess

open RowAccess.Builder (Resolved)

/-- What restrictions depend on of a type. -/
structure Facts where
  schema : Schema
  classified : List Classified
deriving DecidableEq

def Facts.edges (known : Facts) : List Edge := known.schema.edges

def Builder.facts (b : Builder) : Facts := ⟨b.schema, b.classified⟩

/-- What a registry knows of a type: from its builder, or from the builder that would be made. -/
def Registry.facts (r : Registry) (entity : String) : Except Fault Facts :=
  (r.get entity).2.map Builder.facts

/-! ### Own fields -/

/-- What classified fields demand under the tokens of a source. -/
def Facts.demand (tokens : String → List String) (classified : List Classified) :
    Except Fault (Option Predicate) :=
  classified.foldlM
    (fun content c => do
      let p ← Predicate.ofTokens? (.own c.field) c.kind (tokens c.dimension)
      return some (Restriction.narrow content p))
    none

/-- The dimensions of a builder are those of its classified fields. -/
theorem Builder.mem_dimensions {b : Builder} {d : String} :
    d ∈ b.dimensions ↔ ∃ c ∈ b.classified, c.dimension = d := by
  have hfold : b.dimensions = (b.classified.map Classified.dimension).foldl TokenTable.withToken [] := by
    rw [List.foldl_map]
    rfl
  rw [hfold, TokenTable.mem_foldl_withToken]
  simp

theorem lookup_map_self {f : String → List String} {d : String} :
    ∀ {ds : List String}, d ∈ ds → (ds.map fun d => (d, f d)).lookup d = some (f d)
  | e :: rest, h => by
      rw [List.map_cons, List.lookup_cons]
      by_cases he : d = e
      · rw [beq_iff_eq.mpr he, he]
      · rw [beq_false_of_ne he]
        exact lookup_map_self ((List.mem_cons.mp h).resolve_left he)

/-- Demands read only the dimensions of the classified fields. -/
theorem Facts.demand_congr {tokens tokens' : String → List String} {classified : List Classified}
    (h : ∀ c ∈ classified, tokens c.dimension = tokens' c.dimension) :
    demand tokens classified = demand tokens' classified := by
  unfold demand
  generalize (none : Option Predicate) = start
  induction classified generalizing start with
  | nil => rfl
  | cons c rest ih =>
    rw [List.foldlM_cons, List.foldlM_cons, h c (by simp)]
    congr
    funext content
    exact ih (fun c hc => h c (List.mem_cons_of_mem _ hc)) content

/-- A builder demands under what it has looked up just what the source holds. -/
theorem Builder.demand_held (b : Builder) (view : SourceView) :
    Builder.demand b.classified (b.held view) = Facts.demand view.tokens b.classified := by
  have hlook : ∀ c ∈ b.classified,
      ((b.held view).lookup c.dimension).getD [] = view.tokens c.dimension := by
    intro c hc
    have hd : c.dimension ∈ b.dimensions := mem_dimensions.mpr ⟨c, hc, rfl⟩
    simp only [held, lookup_map_self hd, Option.getD_some]
  show Facts.demand (fun d => ((b.held view).lookup d).getD []) b.classified = _
  exact Facts.demand_congr hlook

/-! ### Types and their ancestors -/

/-- An own demand narrowed by those of parents, each moved to the end of its edge. -/
def Facts.combine (own : Option Predicate) (parents : List (String × Option Predicate)) :
    Option Predicate :=
  parents.foldl
    (fun content p =>
      match p.2 with
      | none => content
      | some q => some (Restriction.narrow content (q.rebase p.1)))
    own

theorem Builder.combine_eq (own : Restriction) (parents : List (Edge × Resolved)) :
    Builder.combine own parents =
      Facts.combine own.content (parents.map fun p => (p.1.name, p.2.restriction.content)) := by
  rw [Facts.combine, List.foldl_map]
  rfl

/-- What parents demand, and whether no edge leads to a type that is being visited. -/
def Facts.ofParents (visit : String → Except Fault (Option Predicate × Bool))
    (visiting : List String) :
    List Edge → Except Fault (List (String × Option Predicate) × Bool)
  | [] => .ok ([], true)
  | e :: rest =>
      if visiting.contains e.target then
        match ofParents visit visiting rest with
        | .error f => .error f
        | .ok (parents, _) => .ok (parents, false)
      else
        match visit e.target with
        | .error f => .error f
        | .ok (content, complete) =>
            match ofParents visit visiting rest with
            | .error f => .error f
            | .ok (parents, complete') => .ok ((e.name, content) :: parents, complete && complete')

/-- What a type and its ancestors demand, and whether no cycle of edges was cut on the way. -/
def Facts.meaning (facts : String → Except Fault Facts) (tokens : String → List String) :
    Nat → List String → String → Except Fault (Option Predicate × Bool)
  | 0, _, entity => .error (.unknownEntityType entity)
  | fuel + 1, visiting, entity =>
      match facts entity with
      | .error f => .error f
      | .ok known =>
          match demand tokens known.classified with
          | .error f => .error f
          | .ok own =>
              match ofParents (meaning facts tokens fuel (visiting ++ [entity]))
                (visiting ++ [entity]) known.edges with
              | .error f => .error f
              | .ok (parents, complete) => .ok (combine own parents, complete)

namespace Registry

/-- What a type alone demands of a registry under the tokens of a source. -/
def ownMeaning (r : Registry) (tokens : String → List String) (entity : String) :
    Except Fault (Option Predicate) :=
  (r.facts entity).bind fun known => Facts.demand tokens known.classified

/-- What a type and its ancestors demand of a registry under the tokens of a source. -/
def inclusiveMeaning (r : Registry) (tokens : String → List String) (entity : String) :
    Except Fault (Option Predicate) :=
  (Facts.meaning r.facts tokens (r.typeBound + 1) [] entity).map Prod.fst

end Registry

end RowAccess
