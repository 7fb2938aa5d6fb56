import Mathlib.Data.List.Basic
import Mathlib.Tactic.Common
import RowAccess.Proofs.Access.Evolution
import RowAccess.Proofs.Registry.Bound
import RowAccess.Proofs.Registry.Classify
import RowAccess.Proofs.Registry.Traversal

/-!
# What is kept does not show

A registry is coherent in every state that a run comes to, so that a request answers what facts and tokens
demand. The same registry with all its slots emptied is coherent as well and knows the same facts, and
therefore answers the same.
-/

namespace RowAccess

/-! ### Empty slots -/

namespace Registry

/-- A registry that keeps nothing. -/
def emptied (r : Registry) : Registry := { r with builders := r.builders.map Builder.emptied }

variable {promise : Promise} {l : Ledger} {r r' : Registry} {b : Builder}

theorem builder?_emptied (r : Registry) (entity : String) :
    r.emptied.builder? entity = (r.builder? entity).map Builder.emptied := by
  unfold builder? emptied
  rw [List.find?_map]
  rfl

theorem facts_emptied (r : Registry) : r.emptied.facts = r.facts := by
  funext entity
  rw [facts_eq, facts_eq, builder?_emptied]
  cases r.builder? entity <;> rfl

/-- A registry whose builders keep nothing is coherent without a build on record. -/
theorem coherent_of_unbuilt (promise : Promise)
    (h : ∀ {entity b}, r.builder? entity = some b →
      b.own.restriction = none ∧ b.inclusive.restriction = none) :
    Coherent promise .empty r where
  sound hb := Builder.sound_of_none (h hb).1 (h hb).2
  own := .nil _
  inclusive := .nil _

theorem coherent_emptied (promise : Promise) (r : Registry) : Coherent promise .empty r.emptied := by
  apply coherent_of_unbuilt
  intro entity b hb
  rw [builder?_emptied] at hb
  obtain ⟨c, -, rfl⟩ := Option.map_eq_some_iff.mp hb
  exact ⟨rfl, rfl⟩

theorem coherent_new (promise : Promise) (c : Catalog) : Coherent promise .empty (new c) := by
  apply coherent_of_unbuilt
  intro entity b hb
  cases hb

/-! ### Steps of a run -/

/-- Classifying a field forgets what was built of the own fields; what was built with the parents stays on
record. -/
theorem Coherent.classify (h : Coherent promise l r) (entity field dimension : String) :
    Coherent promise l (r.classify entity field dimension).1 := by
  have hget := h.get entity
  rcases r.classify_cases entity field dimension with ⟨f, heq⟩ | ⟨b, b', hb, rfl, -, hc, heq⟩
  · rw [heq]
    exact hget
  · rw [heq]
    have hs := hget.sound hb
    rcases Builder.classify_cases hc with rfl | ⟨f, -, rfl⟩
    · exact hget.put_same hb hs rfl rfl rfl _
    · have hs' : Builder.Sound promise l { b with
          classified := b.classified ++ [⟨field, dimension, f.kind⟩]
          own := b.own.invalidate } :=
        ⟨OwnSlot.valid_of_none rfl, (by cases ·), hs.inclusive, hs.composed⟩
      exact hget.put_same hb hs' rfl rfl rfl _

theorem Coherent.classifies (h : Coherent promise l r) (hr : r.Classifies r') :
    Coherent promise l r' := by
  induction hr with
  | refl => exact h
  | classify _ entity field dimension ih => exact ih.classify entity field dimension

end Registry

namespace Access

open Registry (Coherent)

variable {promise : Promise} {a : Access} {line : Nat} {action : Action}

theorem RegistryStep.coherent {r : Registry} (hs : RegistryStep a line action r)
    (h : ∃ l, Coherent promise l a.registry) (hk : ∀ view ∈ a.sees line action, view.Keeps promise) :
    ∃ l, Coherent promise l r := by
  obtain ⟨l, h⟩ := h
  cases hs with
  | classified hr => exact ⟨l, h.classifies hr⟩
  | registered s => exact ⟨l, h.sound, h.own, h.inclusive⟩
  | got entity => exact ⟨l, h.get entity⟩
  | switched s => exact ⟨l, h.sound, h.own, h.inclusive⟩
  | own hview entity =>
    obtain ⟨l', hkept, -⟩ := h.ownRestriction (hk _ hview) entity
    exact ⟨l', hkept.coherent⟩
  | inclusive hview entity =>
    obtain ⟨l', hkept, -⟩ := h.inclusiveRestriction (hk _ hview) entity
    exact ⟨l', hkept.coherent⟩

/-- Coherence lasts for as long as the looks of a run keep one promise. -/
theorem coherent_run {acts : List (Nat × Action)} (h : ∃ l, Coherent promise l a.registry)
    (hk : ∀ view ∈ a.observed acts, view.Keeps promise) :
    ∃ l, Coherent promise l (a.run acts).1.registry := by
  induction acts generalizing a with
  | nil => exact h
  | cons step rest ih =>
    have hstep := (perform_registry a step.1 step.2).coherent h
      fun view hview => hk view (List.mem_append_left _ hview)
    exact ih hstep fun view hview => hk view (List.mem_append_right _ hview)

/-! ### Requests -/

theorem request_content (a : Access) (line : Nat) (source : Option SourceRef)
    (ask : Registry → SourceView → Registry × Except Fault Restriction) :
    (a.request line source ask).2.map Restriction.content =
      (a.sourceOr source).bind fun s => (ask a.registry (a.view line s)).2.map Restriction.content := by
  unfold request
  cases a.sourceOr source <;> rfl

/-- What a request for the own fields means, whatever is kept. -/
def ownMeaning (a : Access) (line : Nat) (source : Option SourceRef) (entity : String) :
    Except Fault (Option Predicate) :=
  (a.sourceOr source).bind fun s => a.registry.ownMeaning (a.view line s).tokens entity

/-- What a request for a type and its ancestors means, whatever is kept. -/
def inclusiveMeaning (a : Access) (line : Nat) (source : Option SourceRef) (entity : String) :
    Except Fault (Option Predicate) :=
  (a.sourceOr source).bind fun s => a.registry.inclusiveMeaning (a.view line s).tokens entity

theorem ownRestriction_content (h : ∃ l, Coherent promise l a.registry) {source : Option SourceRef}
    (hk : ∀ view ∈ a.seen line source, view.Keeps promise) (entity : String) :
    (a.ownRestriction line source entity).2.map Restriction.content =
      a.ownMeaning line source entity := by
  obtain ⟨l, h⟩ := h
  unfold ownRestriction ownMeaning
  rw [request_content]
  cases hs : a.sourceOr source with
  | error f => rfl
  | ok s =>
    obtain ⟨l', -, heq⟩ := h.ownRestriction (hk _ (seen_ok hs)) entity
    exact heq

theorem inclusiveRestriction_content (h : ∃ l, Coherent promise l a.registry)
    {source : Option SourceRef} (hk : ∀ view ∈ a.seen line source, view.Keeps promise)
    (entity : String) :
    (a.inclusiveRestriction line source entity).2.map Restriction.content =
      a.inclusiveMeaning line source entity := by
  obtain ⟨l, h⟩ := h
  unfold inclusiveRestriction inclusiveMeaning
  rw [request_content]
  cases hs : a.sourceOr source with
  | error f => rfl
  | ok s =>
    obtain ⟨l', -, heq⟩ := h.inclusiveRestriction (hk _ (seen_ok hs)) entity
    exact heq

/-- After a run, the registry is coherent with a promise that the next request's source keeps. -/
theorem coherent_at_request (c : Catalog) (m : Matcher) (acts : List (Nat × Action)) (line : Nat)
    (source : Option SourceRef) (entity : String)
    (h : Faithful ((separate c m).observed (acts ++ [(line, .inclusiveRestriction source entity)]))) :
    ∃ promise, (∃ l, Coherent promise l ((separate c m).run acts).1.registry) ∧
      ∀ view ∈ ((separate c m).run acts).1.seen line source, view.Keeps promise := by
  obtain ⟨promise, hk⟩ := exists_promise h
  rw [observed_append] at hk
  refine ⟨promise, ?_, fun view hview => ?_⟩
  · exact coherent_run ⟨.empty, Registry.coherent_new promise c⟩
      fun view hview => hk view (List.mem_append_left _ hview)
  · exact hk view (List.mem_append_right _ (List.mem_append_left _ hview))

/-- An access control whose registry keeps nothing. -/
def emptied (a : Access) : Access := { a with registry := a.registry.emptied }

/-- After any run with faithful sources, whatever it did and whichever of its requests failed, a request
answers just what it would answer if nothing had been kept: the same fault, or a restriction with the same
content. -/
theorem answers_emptied (c : Catalog) (m : Matcher) (acts : List (Nat × Action)) (line : Nat)
    (source : Option SourceRef) (entity : String)
    (h : Faithful ((separate c m).observed (acts ++ [(line, .inclusiveRestriction source entity)]))) :
    let a := ((separate c m).run acts).1
    (a.ownRestriction line source entity).2.map Restriction.content =
        (a.emptied.ownRestriction line source entity).2.map Restriction.content ∧
      (a.inclusiveRestriction line source entity).2.map Restriction.content =
        (a.emptied.inclusiveRestriction line source entity).2.map Restriction.content := by
  intro a
  obtain ⟨promise, hcoherent, hk⟩ := coherent_at_request c m acts line source entity h
  have hempty : ∃ l, Coherent promise l a.emptied.registry :=
    ⟨.empty, Registry.coherent_emptied promise a.registry⟩
  rw [ownRestriction_content hcoherent hk, ownRestriction_content hempty hk,
    inclusiveRestriction_content hcoherent hk, inclusiveRestriction_content hempty hk]
  show (a.sourceOr source).bind _ = ((a.sourceOr source).bind fun s =>
      a.registry.emptied.ownMeaning (a.view line s).tokens entity) ∧
    (a.sourceOr source).bind _ = (a.sourceOr source).bind fun s =>
      a.registry.emptied.inclusiveMeaning (a.view line s).tokens entity
  rw [Registry.ownMeaning_congr (Registry.facts_emptied a.registry),
    Registry.inclusiveMeaning_congr (Registry.facts_emptied a.registry)]
  exact ⟨rfl, rfl⟩

/-- Orders with a region. -/
def orders : Catalog := [⟨"orders", [⟨"region", .text, "orders", some "region"⟩], []⟩]

/-- A request for orders, and then one more region. -/
def moreRegions : List (Nat × Action) :=
  [(0, .addSource (.static 0 [("region", ["EU"])])),
    (0, .inclusiveRestriction (some (.made 0)) "orders"),
    (0, .changeSource 0 (.add "region" "US"))]

theorem answers_emptied_moreRegions :
    let a := ((separate orders .standard).run moreRegions).1
    (a.ownRestriction 0 (some (.made 0)) "orders").2.map Restriction.content =
        (a.emptied.ownRestriction 0 (some (.made 0)) "orders").2.map Restriction.content ∧
      (a.inclusiveRestriction 0 (some (.made 0)) "orders").2.map Restriction.content =
        (a.emptied.inclusiveRestriction 0 (some (.made 0)) "orders").2.map Restriction.content := by
  have htables : (separate orders .standard).observed
      (moreRegions ++ [(0, .inclusiveRestriction (some (.made 0)) "orders")]) =
      [(0, Source.static 0 [("region", ["EU"])]), (0, .static 1 [("region", ["EU", "US"])])].map
        fun x => x.2.view x.1 := rfl
  refine answers_emptied orders .standard moreRegions 0 (some (.made 0)) "orders" ?_
  rw [htables]
  exact faithful_of_tables (by decide) (by decide)

end Access

end RowAccess
