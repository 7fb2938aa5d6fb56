import Mathlib.Data.List.Dedup
import Mathlib.Tactic.Common
import RowAccess.Proofs.Access.Step
import RowAccess.Proofs.Registry.Classify
import RowAccess.Proofs.Registry.Visit

/-!
# Traversals come to an end

In every state that a run comes to, whatever is known is known of a type that the catalog describes. Traversals
therefore come to an end on every graph of edges, and lie no deeper within each other than types are described.
-/

namespace RowAccess

/-- The types that a catalog describes, each of them once. -/
def Catalog.entities (c : Catalog) : List String := (c.map Schema.entity).dedup

theorem Catalog.mem_entities {c : Catalog} {entity : String} :
    entity ∈ c.entities ↔ ∃ s ∈ c, s.entity = entity := by
  rw [entities, List.mem_dedup, List.mem_map]

theorem Catalog.mem_entities_register {c : Catalog} {s : Schema} {entity : String} :
    entity ∈ (c.register s).entities ↔ entity = s.entity ∨ entity ∈ c.entities := by
  simp only [mem_entities]
  induction c with
  | nil => simp [register, eq_comm]
  | cons t rest ih =>
    unfold register
    split
    next h => simp [h, eq_comm]
    next => simp only [List.exists_mem_cons_iff, ih, or_left_comm]

namespace Registry

/-- Whatever is known is known of a described type. -/
def Described (r : Registry) : Prop := ∀ entity k, r.facts entity = .ok k → entity ∈ r.catalog.entities

variable {r r' : Registry}

theorem described_new (c : Catalog) : (new c).Described := by
  intro entity k h
  rw [facts_eq] at h
  exact Catalog.mem_entities.mpr (Catalog.exists_of_facts h)

theorem Described.congr (h : r.Described) (hcatalog : r'.catalog = r.catalog) (hfacts : r'.facts = r.facts) :
    r'.Described := by
  intro entity k hk
  rw [hcatalog]
  exact h entity k (hfacts ▸ hk)

theorem Described.extends (h : r.Described) (he : Extends r r') : r'.Described := h.congr he.catalog he.facts

/-- A field is classified of a type of which something is known already. -/
theorem Described.classify (h : r.Described) (entity field dimension : String) :
    (r.classify entity field dimension).1.Described := by
  intro e k hk
  rw [(classify_frame r entity field dimension).1]
  rcases r.facts_classify_cases entity field dimension with heq | ⟨known, _, hknown, -, heq⟩
  · exact h e k (heq ▸ hk)
  · rw [heq] at hk
    by_cases he : e = entity
    · exact he ▸ h entity known hknown
    · exact h e k ((Function.update_of_ne he _ _).symm.trans hk)

theorem Described.classifies (h : r.Described) (hc : r.Classifies r') : r'.Described := by
  induction hc with
  | refl => exact h
  | classify _ entity field dimension ih => exact ih.classify entity field dimension

/-- A type that is described anew stays described, with its builder or without. -/
theorem Described.register (h : r.Described) (s : Schema) : (r.registerSchema s).Described := by
  intro entity k hk
  rw [facts_eq] at hk
  cases hb : r.builder? entity with
  | some b => exact Catalog.mem_entities_register.mpr (.inr (h entity b.facts (facts_of_builder hb)))
  | none =>
    have hnone : (r.registerSchema s).builder? entity = none := hb
    rw [hnone] at hk
    exact Catalog.mem_entities.mpr (Catalog.exists_of_facts hk)

end Registry

namespace Access

variable {a : Access} {line : Nat} {action : Action}

theorem RegistryStep.described {r : Registry} (hd : a.registry.Described)
    (h : RegistryStep a line action r) : r.Described := by
  cases h with
  | classified hc => exact hd.classifies hc
  | registered s => exact hd.register s
  | got entity => exact hd.extends (Registry.extends_get _ entity)
  | switched s => exact hd.congr rfl (Registry.facts_switched _ _)
  | own _ entity => exact hd.extends (Registry.extends_ownRestriction _ _ entity)
  | inclusive _ entity => exact hd.extends (Registry.extends_inclusiveRestriction _ _ entity)

theorem described_run : ∀ (acts : List (Nat × Action)) {a : Access}, a.registry.Described →
    (a.run acts).1.registry.Described
  | [], _, h => h
  | (line, action) :: rest, a, h => described_run rest (RegistryStep.described h (perform_registry a line action))

end Access

/-- In a described registry the visit of any type comes to an end, and its stays are among described types. -/
theorem Registry.Described.visit {r : Registry} (h : r.Described) (view : SourceView) (entity : String) :
    ∃ depth stays, Visit view ⟨r, []⟩ entity depth stays (resolve view (r.typeBound + 1) ⟨r, []⟩ entity) ∧
      depth ≤ r.catalog.entities.length ∧ ∀ s ∈ stays, s.Sound r.catalog.entities := by
  have hbound : r.catalog.entities.length ≤ r.catalog.length := by
    rw [← List.length_map Schema.entity]
    exact (List.dedup_sublist _).length_le
  have hends : Ends view r.catalog.entities (r.typeBound + 1) ⟨r, []⟩ entity := by
    refine visit_ends (h _ _) _ rfl (.start _) List.not_mem_nil ?_
    rw [List.length_nil, typeBound]
    omega
  exact hends

namespace Access

open Registry (Visit Stay)

/-- In every state that a run comes to, the traversal from any type comes to an end, and with what the request
answers. Its visits lie no deeper within each other than types are described. While a type is visited, the types
being visited are all different, described, and end with that one; once it is left, whether with a restriction or
with a fault, they are what they were before. -/
theorem traversal_ends (c : Catalog) (m : Matcher) (acts : List (Nat × Action)) (view : SourceView)
    (entity : String) :
    let r := ((separate c m).run acts).1.registry
    (∃ depth stays out, Visit view ⟨r, []⟩ entity depth stays out) ∧
      ∀ depth stays out, Visit view ⟨r, []⟩ entity depth stays out →
        r.inclusiveRestriction view entity = (out.1.registry, out.2.map Builder.Resolved.restriction) ∧
        out.1.visiting = [] ∧ depth ≤ r.catalog.entities.length ∧
        ∀ s ∈ stays, s.within.Nodup ∧ s.within ⊆ r.catalog.entities ∧ (∃ e, s.within = s.before ++ [e]) ∧
          s.after = s.before := by
  intro r
  have hdescribed : r.Described := described_run acts (Registry.described_new c)
  obtain ⟨depth, stays, hvisit, hdepth, hsound⟩ := hdescribed.visit view entity
  refine ⟨⟨depth, stays, _, hvisit⟩, ?_⟩
  intro depth' stays' out hout
  obtain ⟨rfl, rfl, rfl⟩ := hvisit.unique hout
  refine ⟨?_, (Registry.continues_resolve view _ ⟨r, []⟩ entity).visiting, hdepth, fun s hs => ?_⟩
  · unfold Registry.inclusiveRestriction
    generalize Registry.resolve view (r.typeBound + 1) ⟨r, []⟩ entity = out
    obtain ⟨t, result⟩ := out
    cases result <;> rfl
  · obtain ⟨hway, hentered, hrestored⟩ := hsound s hs
    exact ⟨hway.distinct, hway.known, hentered, hrestored⟩

/-- Types with an edge to itself, two edges to one type, and two ways to a last type that leads back. -/
def circuit : Catalog :=
  [⟨"a", [], [⟨"self", "a"⟩, ⟨"left", "b"⟩, ⟨"again", "b"⟩, ⟨"right", "c"⟩]⟩,
    ⟨"b", [], [⟨"down", "d"⟩]⟩, ⟨"c", [], [⟨"down", "d"⟩]⟩, ⟨"d", [], [⟨"back", "a"⟩]⟩]

/-- A request that leaves builders behind. -/
def circuitRun : List (Nat × Action) := [(0, .inclusiveRestriction (some (.made 0)) "d")]

def circuitRegistry : Registry := ((separate circuit .standard).run circuitRun).1.registry

/-- A source that holds nothing. -/
def bare : SourceView := ⟨.stack, none, fun _ => []⟩

/-- All stays when the first type of the circuit is visited. -/
def circuitStays : List Stay :=
  [⟨[], ["a"], []⟩, ⟨["a"], ["a", "b"], ["a"]⟩, ⟨["a", "b"], ["a", "b", "d"], ["a", "b"]⟩,
    ⟨["a"], ["a", "b"], ["a"]⟩, ⟨["a", "b"], ["a", "b", "d"], ["a", "b"]⟩,
    ⟨["a"], ["a", "c"], ["a"]⟩, ⟨["a", "c"], ["a", "c", "d"], ["a", "c"]⟩]

theorem traversal_ends_circuit :
    ∃ out, Visit bare ⟨circuitRegistry, []⟩ "a" 3 circuitStays out ∧
      circuitRegistry.inclusiveRestriction bare "a" =
        (out.1.registry, out.2.map Builder.Resolved.restriction) ∧
      out.1.visiting = [] ∧ 3 ≤ circuitRegistry.catalog.entities.length ∧
      ⟨["a", "c"], ["a", "c", "d"], ["a", "c"]⟩ ∈ circuitStays ∧ ["a", "c", "d"].Nodup ∧
        ["a", "c", "d"] ⊆ circuitRegistry.catalog.entities := by
  obtain ⟨depth, stays, out, hvisit, rfl, rfl⟩ :
      ∃ depth stays out, Visit bare ⟨circuitRegistry, []⟩ "a" depth stays out ∧ depth = 3 ∧ stays = circuitStays :=
    ⟨_, _, _, .known rfl rfl
      (.cut (by decide)
        (.visited (by decide)
          (.known rfl rfl (.visited (by decide) (.known rfl rfl (.cut (by decide) .done) rfl) .done) rfl)
          (.visited (by decide)
            (.known rfl rfl (.visited (by decide) (.known rfl rfl (.cut (by decide) .done) rfl) .done) rfl)
            (.visited (by decide)
              (.known rfl rfl (.visited (by decide) (.known rfl rfl (.cut (by decide) .done) rfl) .done) rfl)
              .done)))) rfl, rfl, rfl⟩
  obtain ⟨hanswer, hleft, hdepth, hstays⟩ := (traversal_ends circuit .standard circuitRun bare "a").2 _ _ out hvisit
  have hmember : ⟨["a", "c"], ["a", "c", "d"], ["a", "c"]⟩ ∈ circuitStays := by decide
  obtain ⟨hnodup, hknown, -, -⟩ := hstays _ hmember
  exact ⟨out, hvisit, hanswer, hleft, hdepth, hmember, hnodup, hknown⟩

end Access

end RowAccess
