import Mathlib.Data.List.Basic
import Mathlib.Tactic.Common
import RowAccess.Proofs.Access.Consulted
import RowAccess.Proofs.Access.Sight

/-!
# When two requests answer the same object

Two requests for a type and its ancestors answer one and the same object just if all that was seen of the
source in between, wherever a builder of the type or of an ancestor was consulted, was the same in the
dimensions of its classified fields as at the first of the two. Neither versions nor other dimensions matter, nor
whether tokens that were seen to be different have come back since.
-/

namespace RowAccess.Access

open Facts (Reaches Acyclic)
open Registry (Everywhere Based Fair Ready SameLooks)

variable {a first second : Access} {line line' : Nat} {source source' : Option SourceRef} {s : SourceRef}
  {entity : String} {promise : Promise} {id : SourceId} {x y : Restriction} {between : List (Nat × Action)}

/-! ### One request -/

/-- A request that has a source is one to the registry. -/
theorem inclusiveRestriction_eq (hs : a.sourceOr source = .ok s) (entity : String) :
    a.inclusiveRestriction line source entity =
      ({ a with registry := (a.registry.inclusiveRestriction (a.view line s) entity).1 },
        (a.registry.inclusiveRestriction (a.view line s) entity).2) :=
  request_of_source hs line fun r view => r.inclusiveRestriction view entity

/-- A request that has an answer has a source. -/
theorem sourceOr_of_ok (h : a.inclusiveRestriction line source entity = (first, .ok x)) :
    ∃ s, a.sourceOr source = .ok s := by
  unfold inclusiveRestriction request at h
  cases hs : a.sourceOr source with
  | ok s => exact ⟨s, rfl⟩
  | error f =>
    rw [hs] at h
    cases (Prod.mk.inj h).2

theorem facts_request (hs : a.sourceOr source = .ok s)
    (h : a.inclusiveRestriction line source entity = (first, .ok x)) :
    first.registry.facts = a.registry.facts := by
  rw [inclusiveRestriction_eq hs] at h
  obtain ⟨rfl, -⟩ := Prod.mk.inj h
  exact (Registry.extends_inclusiveRestriction _ _ entity).facts

/-- Behind a request with an answer, a type that reaches no cycle is ready and keeps the answer. -/
theorem ready_request (hs : a.sourceOr source = .ok s)
    (h : a.inclusiveRestriction line source entity = (first, .ok x))
    (hacyclic : Acyclic a.registry.facts entity) :
    Ready (a.view line s) first.registry entity ∧
      ∃ b, first.registry.builder? entity = some b ∧ b.inclusive.restriction = some x := by
  rw [inclusiveRestriction_eq hs] at h
  obtain ⟨rfl, hx⟩ := Prod.mk.inj h
  exact Registry.ready_inclusiveRestriction hacyclic hx

/-! ### What is kept in every state -/

/-- An access control whose builders hold what was given out, and keep a promise for a source. -/
structure Honest (promise : Promise) (id : SourceId) (a : Access) : Prop where
  serial : 0 < a.registry.serial
  numbered : Everywhere Builder.Numbered a.registry
  stamped : Everywhere (fun _ b => Builder.Stamped promise id b) a.registry

theorem honest_separate (promise : Promise) (id : SourceId) (c : Catalog) (m : Matcher) :
    Honest promise id (separate c m) where
  serial := Nat.succ_pos _
  numbered _ _ hb := by cases hb
  stamped _ _ hb := by cases hb

theorem Honest.run (h : Honest promise id a) (acts : List (Nat × Action))
    (hk : ∀ look ∈ a.observed acts, look.id = id → look.Keeps promise) :
    Honest promise id (a.run acts).1 where
  serial := Nat.lt_of_lt_of_le h.serial (a.course_run acts).serial_le
  numbered := (a.course_run acts).everywhere (Builder.lasting_numbered fun _ => True) (fun _ _ => trivial)
    h.numbered
  stamped := (a.course_run acts).everywhere (Builder.lasting_stamped promise id)
    (fun _ hmem hid => (hk _ (view_mem_observed hmem) hid).version) h.stamped

theorem Honest.request (h : Honest promise id a)
    (hfirst : a.inclusiveRestriction line source entity = (first, .ok x))
    (hk : ∀ look ∈ a.seen line source, look.id = id → look.Keeps promise) : Honest promise id first := by
  have hstep := h.run [(line, .inclusiveRestriction source entity)] fun look hlook =>
    hk look ((List.mem_append.mp hlook).resolve_right List.not_mem_nil)
  rwa [show (a.run [(line, .inclusiveRestriction source entity)]).1 = first from
    congrArg Prod.fst hfirst] at hstep

/-! ### Two requests -/

/-- A request for a type, some steps, and one more request for the type. -/
def requestTwice (line line' : Nat) (source source' : Option SourceRef) (entity : String)
    (between : List (Nat × Action)) : List (Nat × Action) :=
  (line, .inclusiveRestriction source entity) :: between ++ [(line', .inclusiveRestriction source' entity)]

/-- What two requests and the steps between them consult: what the first one does, and what comes behind it. -/
theorem consulted_requestTwice (hs : a.sourceOr source = .ok s)
    (h : a.inclusiveRestriction line source entity = (first, .ok x)) (line' : Nat)
    (source' : Option SourceRef) (between : List (Nat × Action)) :
    a.consulted (requestTwice line line' source source' entity between) =
      a.registry.inclusiveConsultations (a.view line s) entity ++
        first.consulted (between ++ [(line', .inclusiveRestriction source' entity)]) := by
  have hlog : a.consultations line (.inclusiveRestriction source entity) =
      a.registry.inclusiveConsultations (a.view line s) entity := by
    simp [consultations, seen, hs]
  have hstate : (a.perform line (.inclusiveRestriction source entity)).1 = first := congrArg Prod.fst h
  rw [← hlog, ← hstate]
  rfl

/-- All looks at the types behind the first request have the fingerprint of its own just if all looks show the
same in the dimensions of classified fields. -/
theorem sameLooks_iff (hs : a.sourceOr source = .ok s)
    (h : a.inclusiveRestriction line source entity = (first, .ok x))
    (hbase : Based (Reaches a.registry.facts entity) (a.view line s) first.registry)
    (hkview : (a.view line s).Keeps promise)
    (hkeeps : ∀ k ∈ first.consulted (between ++ [(line', .inclusiveRestriction source' entity)]),
      Reaches a.registry.facts entity k.entity → k.view.Keeps promise) :
    (∀ u, Reaches a.registry.facts entity u →
        SameLooks (a.view line s).tokens first.registry
          (first.consulted (between ++ [(line', .inclusiveRestriction source' entity)])) u) ↔
      ∀ k ∈ a.consulted (requestTwice line line' source source' entity between), ∀ known,
        Reaches a.registry.facts entity k.entity → a.registry.facts k.entity = .ok known →
          ∀ f ∈ known.classified, k.view.tokens f.dimension = (a.view line s).tokens f.dimension := by
  rw [consulted_requestTwice hs h]
  have hfacts := facts_request hs h
  constructor
  · intro hlooks k hk known hreach hknown f hf
    rcases List.mem_append.mp hk with hk | hk
    · rw [Registry.view_of_mem_consultations _ _ _ k hk]
    · cases hbase.ready hreach with
      | @intro _ b₁ found =>
        rw [← hfacts, Registry.facts_of_builder found] at hknown
        obtain rfl := Except.ok.inj hknown
        have hlook := hlooks _ hreach b₁ found k.view (mem_looksAt.mpr ⟨k, hk, rfl, rfl⟩)
        exact Builder.eq_of_fingerprint (hkeeps k hk hreach).fits hkview.fits hlook f hf
  · intro htokens u hu b₁ hb₁ look hlook
    obtain ⟨k, hk, rfl, rfl⟩ := mem_looksAt.mp hlook
    refine Builder.fingerprintOf_congr fun f hf => ?_
    refine htokens k (List.mem_append_right _ hk) b₁.facts hu ?_ f hf
    rw [← hfacts, Registry.facts_of_builder hb₁]

/-- What comes behind the first request takes the registry to where the second one leaves it. -/
theorem course_again
    (h : (first.run between).1.inclusiveRestriction line' source' entity = (second, .ok y)) :
    Registry.Course first.registry
      (first.consulted (between ++ [(line', .inclusiveRestriction source' entity)])) second.registry := by
  have hrun := first.course_run (between ++ [(line', .inclusiveRestriction source' entity)])
  rw [run_append] at hrun
  rwa [show ((first.run between).1.run [(line', .inclusiveRestriction source' entity)]).1 = second from
    congrArg Prod.fst h] at hrun

/-- Two requests in an honest access control. -/
theorem Honest.serial_eq_iff (h : Honest promise (a.view line s).id a) (hs : a.sourceOr source = .ok s)
    (hfirst : a.inclusiveRestriction line source entity = (first, .ok x))
    (hsecond : (first.run between).1.inclusiveRestriction line' source' entity = (second, .ok y))
    (hacyclic : Acyclic a.registry.facts entity)
    (hfacts : ∀ t, Reaches a.registry.facts entity t →
      (first.run between).1.registry.facts t = a.registry.facts t)
    (hfair : ∀ k ∈ a.consulted (requestTwice line line' source source' entity between),
      Reaches a.registry.facts entity k.entity → k.view.id = (a.view line s).id ∧ k.succeeded = true)
    (hk : ∀ look ∈ a.observed (requestTwice line line' source source' entity between),
      look.id = (a.view line s).id → look.Keeps promise) :
    x.serial = y.serial ↔
      ∀ k ∈ a.consulted (requestTwice line line' source source' entity between), ∀ known,
        Reaches a.registry.facts entity k.entity → a.registry.facts k.entity = .ok known →
          ∀ f ∈ known.classified, k.view.tokens f.dimension = (a.view line s).tokens f.dimension := by
  have hkview : (a.view line s).Keeps promise := hk _ (List.mem_append_left _ (seen_ok hs)) rfl
  have hlater : ∀ k ∈ first.consulted (between ++ [(line', .inclusiveRestriction source' entity)]),
      k ∈ a.consulted (requestTwice line line' source source' entity between) := by
    intro k hmem
    rw [consulted_requestTwice hs hfirst]
    exact List.mem_append_right _ hmem
  have hkeeps : ∀ k ∈ first.consulted (between ++ [(line', .inclusiveRestriction source' entity)]),
      k.view.id = (a.view line s).id → k.view.Keeps promise :=
    fun k hmem => hk _ (view_mem_observed (hlater k hmem))
  -- What the first request leaves behind.
  obtain ⟨hready, b₁, hb₁, hx⟩ := ready_request hs hfirst hacyclic
  have hknown := facts_request hs hfirst
  have hhonest := h.request hfirst fun look hlook => hk look (List.mem_append_left _ hlook)
  have hbase := Registry.based_of_ready hhonest.serial hready hhonest.stamped hkview
  rw [hknown] at hbase
  -- What the second request comes to.
  obtain ⟨s', hs'⟩ := sourceOr_of_ok hsecond
  obtain ⟨hready', b₂, hb₂, hy⟩ := ready_request hs' hsecond (hacyclic.congr hfacts)
  have hsame : ∀ t, Reaches a.registry.facts entity t → second.registry.facts t = a.registry.facts t := by
    intro t ht
    rw [facts_request hs' hsecond, hfacts t ht]
  have hfair' : Fair (Reaches a.registry.facts entity) (a.view line s) promise first.registry
      (first.consulted (between ++ [(line', .inclusiveRestriction source' entity)])) second.registry :=
    Registry.fair_of_facts (fun k hmem => hfair k (hlater k hmem)) hkeeps fun u hu => by rw [hsame u hu, hknown]
  have hsince := hbase.since (course_again hsecond) hfair' hhonest.stamped
  rw [← sameLooks_iff hs hfirst hbase hkview fun k hmem hreach =>
    hkeeps k hmem (hfair k (hlater k hmem) hreach).1]
  rw [← hknown] at hsince hbase hsame ⊢
  exact hsince.serial_eq_iff hbase hhonest.numbered (fun hu => hready'.reaches (hu.still hsame)) hb₁ hx hb₂ hy

/-- Two requests of a run for a type that reaches no cycle answer the same object just if every consultation of a
type that it reaches, from the first request to the second, saw the same tokens as the first request in the
dimensions of the fields that are classified there. It is asked that all these consultations have an answer and
are of one source, which is faithful, and that no more fields are classified meanwhile. -/
theorem same_object_iff (c : Catalog) (m : Matcher) (before between : List (Nat × Action)) (line line' : Nat)
    (source source' : Option SourceRef) (s : SourceRef) (entity : String) (x y : Restriction) :
    let a := ((separate c m).run before).1
    let view := a.view line s
    let first := a.inclusiveRestriction line source entity
    let b := (first.1.run between).1
    let steps := requestTwice line line' source source' entity between
    a.sourceOr source = .ok s → first.2 = .ok x →
      (b.inclusiveRestriction line' source' entity).2 = .ok y →
      Acyclic a.registry.facts entity →
      (∀ t, Reaches a.registry.facts entity t → b.registry.facts t = a.registry.facts t) →
      (∀ k ∈ a.consulted steps, Reaches a.registry.facts entity k.entity →
        k.view.id = view.id ∧ k.succeeded = true) →
      Faithful (((separate c m).observed (before ++ steps)).filter fun look => look.id = view.id) →
      (x.serial = y.serial ↔
        ∀ k ∈ a.consulted steps, ∀ known, Reaches a.registry.facts entity k.entity →
          a.registry.facts k.entity = .ok known →
            ∀ f ∈ known.classified, k.view.tokens f.dimension = view.tokens f.dimension) := by
  intro a view first b steps hs hx hy hacyclic hfacts hfair hfaithful
  obtain ⟨promise, hk⟩ := exists_promise_of view.id hfaithful
  rw [observed_append] at hk
  have hhonest : Honest promise view.id a := (honest_separate promise view.id c m).run before
    fun look hlook => hk look (List.mem_append_left _ hlook)
  exact hhonest.serial_eq_iff hs (Prod.ext rfl hx) (Prod.ext rfl hy) hacyclic hfacts hfair
    fun look hlook => hk look (List.mem_append_right _ hlook)

/-- Parcels with the orders that they are for. -/
def parcels : Catalog :=
  [⟨"parcels", [⟨"depot", .text, "parcels", some "depot"⟩], [⟨"order", "orders"⟩]⟩,
    ⟨"orders", [⟨"region", .text, "orders", some "region"⟩], []⟩]

/-- A table with a depot and a region. -/
def depots : List (Nat × Action) :=
  [(0, .addSource (.static 0 [("depot", ["north"]), ("region", ["EU"])]))]

/-- Neither parcels nor orders reach a cycle. -/
theorem acyclic_parcels (entity : String) :
    Acyclic ((separate parcels .standard).run depots).1.registry.facts entity := by
  refine Facts.acyclic_of_rank (fun t => if t = "parcels" then 1 else 0) (fun {t known} hknown e he => ?_) entity
  have ht : t ∈ ["parcels", "orders"] := Registry.mem_types hknown
  rcases List.mem_pair.mp ht with rfl | rfl
  · obtain rfl := Except.ok.inj hknown
    rw [List.mem_singleton.mp he]
    decide
  · obtain rfl := Except.ok.inj hknown
    cases he

/-- Another region for a while, which is seen by a request for orders alone. -/
def regionAndBack : List (Nat × Action) :=
  [(0, .changeSource 0 (.add "region" "US")), (0, .ownRestriction (some (.made 0)) "orders"),
    (0, .changeSource 0 (.clear "region")), (0, .changeSource 0 (.add "region" "EU"))]

theorem exists_of_isOk {α : Type} {result : Except Fault α} (h : result.isOk = true) : ∃ x, result = .ok x := by
  cases result with
  | error f => cases h
  | ok x => exact ⟨x, rfl⟩

theorem facts_regionAndBack (a : Access) : (a.run regionAndBack).1.registry.facts = a.registry.facts :=
  (extends_request (a.changeSource 0 (Source.add "region" "US")) 0 (some (.made 0))
    fun r view => Registry.extends_ownRestriction r view "orders").facts

theorem faithful_regionAndBack : Faithful ((separate parcels .standard).observed
    (depots ++ requestTwice 0 0 (some (.made 0)) (some (.made 0)) "parcels" regionAndBack)) := by
  have htables : (separate parcels .standard).observed
      (depots ++ requestTwice 0 0 (some (.made 0)) (some (.made 0)) "parcels" regionAndBack) =
      [(0, Source.static 0 [("depot", ["north"]), ("region", ["EU"])]),
        (0, .static 1 [("depot", ["north"]), ("region", ["EU", "US"])]),
        (0, .static 3 [("depot", ["north"]), ("region", ["EU"])])].map fun x => x.2.view x.1 := rfl
  rw [htables]
  exact faithful_of_tables (by decide) (by decide)

/-- The region is as it was, but another object is answered. -/
theorem same_object_iff_parcels :
    let a := ((separate parcels .standard).run depots).1
    let first := a.inclusiveRestriction 0 (some (.made 0)) "parcels"
    let second := (first.1.run regionAndBack).1.inclusiveRestriction 0 (some (.made 0)) "parcels"
    ∃ x y, first.2 = .ok x ∧ second.2 = .ok y ∧ x.serial ≠ y.serial := by
  have hiff := same_object_iff parcels .standard depots regionAndBack 0 0 (some (.made 0)) (some (.made 0))
    (.made 0) "parcels"
  have hfaithful := faithful_regionAndBack
  have hs : ((separate parcels .standard).run depots).1.sourceOr (some (.made 0)) = .ok (.made 0) := rfl
  have hacyclic := acyclic_parcels "parcels"
  have hok : (((separate parcels .standard).run depots).1.inclusiveRestriction 0 (some (.made 0))
      "parcels").2.isOk = true := by decide +kernel
  have hok' : (((((separate parcels .standard).run depots).1.inclusiveRestriction 0 (some (.made 0))
      "parcels").1.run regionAndBack).1.inclusiveRestriction 0 (some (.made 0)) "parcels").2.isOk = true := by
    decide +kernel
  have hfair : ∀ k ∈ ((separate parcels .standard).run depots).1.consulted
      (requestTwice 0 0 (some (.made 0)) (some (.made 0)) "parcels" regionAndBack),
      k.view.id = (((separate parcels .standard).run depots).1.view 0 (.made 0)).id ∧ k.succeeded = true := by
    decide +kernel
  have hother : ∃ k ∈ ((separate parcels .standard).run depots).1.consulted
      (requestTwice 0 0 (some (.made 0)) (some (.made 0)) "parcels" regionAndBack),
      k.entity = "orders" ∧ k.view.tokens "region" ≠
        (((separate parcels .standard).run depots).1.view 0 (.made 0)).tokens "region" := by decide +kernel
  have hparcels : ((separate parcels .standard).run depots).1.registry.facts "parcels" =
      .ok ⟨⟨"parcels", [⟨"depot", .text, "parcels", some "depot"⟩], [⟨"order", "orders"⟩]⟩,
        [⟨"depot", "depot", .text⟩]⟩ := rfl
  have horders : ((separate parcels .standard).run depots).1.registry.facts "orders" =
      .ok ⟨⟨"orders", [⟨"region", .text, "orders", some "region"⟩], []⟩, [⟨"region", "region", .text⟩]⟩ := rfl
  -- What is known of the state is enough from here on.
  generalize ((separate parcels .standard).run depots).1 = a at *
  intro a' first second
  obtain ⟨x, hx⟩ := exists_of_isOk hok
  obtain ⟨y, hy⟩ := exists_of_isOk hok'
  refine ⟨x, y, hx, hy, fun heq => ?_⟩
  have hfacts := (facts_regionAndBack first.1).trans (facts_request hs (Prod.ext rfl hx))
  have hsame := (hiff x y hs hx hy hacyclic (fun t _ => congrFun hfacts t) (fun k hk _ => hfair k hk)
    (hfaithful.of_subset fun look hlook => (List.mem_filter.mp hlook).1)).mp heq
  obtain ⟨k, hk, hentity, hne⟩ := hother
  have hreach : Reaches a.registry.facts "parcels" k.entity := by
    rw [hentity]
    exact Facts.reaches_edge (e := ⟨"order", "orders"⟩) hparcels (List.mem_singleton_self _)
  exact hne (hsame k hk _ hreach (hentity ▸ horders) _ (List.mem_singleton_self _))

end RowAccess.Access
