import Mathlib.Data.List.Basic
import Mathlib.Tactic.Common
import RowAccess.Proofs.Predicate.Coercion
import RowAccess.Proofs.Registry.Acyclic
import RowAccess.Proofs.Registry.Mapping
import RowAccess.Proofs.Registry.OwnSlot
import RowAccess.Proofs.Registry.Visit

/-!
# Where faults of requests come from

A request fails with a fault of a type on its way: nothing is known of the type, or the tokens of the source are none
that its own fields can be compared with. This holds whatever is kept, and without any promise of the source.
-/

namespace RowAccess.Registry

open RowAccess.Builder (Resolved)
open RowAccess.Facts (Reaches reaches_edge)

variable {r r' : Registry} {view : SourceView} {entity : String} {b : Builder} {f : Fault}

/-- A fault of a type or of one that it reaches: nothing is known of that type, or its own fields demand nothing
under the tokens of the source. -/
def Origin (r : Registry) (view : SourceView) (entity : String) (f : Fault) : Prop :=
  ∃ e, Reaches r.facts entity e ∧ r.ownMeaning view.tokens e = .error f

theorem origin_self (h : r.ownMeaning view.tokens entity = .error f) : r.Origin view entity f :=
  ⟨entity, .refl _ _, h⟩

theorem Origin.congr (h : r'.Origin view entity f) (hfacts : r'.facts = r.facts) : r.Origin view entity f := by
  obtain ⟨e, hreach, he⟩ := h
  exact ⟨e, hfacts ▸ hreach, ownMeaning_congr hfacts ▸ he⟩

/-- A fault behind an edge is a fault of the type that the edge starts from. -/
theorem Origin.of_edge {e : Edge} {known : Facts} (hknown : r.facts entity = .ok known) (he : e ∈ known.edges)
    (h : r.Origin view e.target f) : r.Origin view entity f := by
  obtain ⟨u, hreach, hu⟩ := h
  exact ⟨u, (reaches_edge hknown he).trans hreach, hu⟩

theorem ownMeaning_of_get (h : r.get entity = (r', .error f)) (tokens : String → List String) :
    r.ownMeaning tokens entity = .error f := by
  rw [ownMeaning, facts, h]
  rfl

/-- A builder fails to answer because of the tokens alone. -/
theorem ownMeaning_of_resolveOwn (hb : r.builder? b.entity = some b) (h : r.resolveOwn view b = (r', .error f)) :
    r.ownMeaning view.tokens b.entity = .error f := by
  have hresult : (b.resolveOwn view r.serial).result = .error f := congrArg Prod.snd h
  have hstep := b.resolveOwn_step view r.serial
  generalize b.resolveOwn view r.serial = out at hstep hresult
  rw [ownMeaning, facts_of_builder hb]
  cases hstep with
  | byVersion => cases hresult
  | byFingerprint => cases hresult
  | failed g hdemand =>
    obtain rfl := Except.error.inj hresult
    exact hdemand
  | built => cases hresult

theorem error_of_map {α β : Type} {result : Except Fault α} {g : α → β} (h : result.map g = .error f) :
    result = .error f := by
  cases result with
  | error _ => exact congrArg _ (Except.error.inj h)
  | ok x => cases h

/-- A request for own fields fails with a fault of its type. -/
theorem ownMeaning_of_ownRestriction (h : (r.ownRestriction view entity).2 = .error f) :
    r.ownMeaning view.tokens entity = .error f := by
  obtain ⟨g, hg, heq⟩ | ⟨r₁, b, hg, hb, rfl, heq⟩ := r.ownRestriction_cases view entity
  · rw [heq] at h
    obtain rfl := Except.error.inj h
    exact ownMeaning_of_get hg _
  · have hext := extends_of_get hg
    rw [heq] at h
    rw [← ownMeaning_congr hext.facts]
    exact ownMeaning_of_resolveOwn hb (Prod.ext rfl (error_of_map h))

mutual

/-- A visit leaves what is known as it is, and fails with a fault of its type or of one that it reaches. -/
theorem Visit.origin {t : Traversal} {entity : String} {depth : Nat} {stays : List Stay}
    {out : Traversal × Except Fault Resolved} :
    Visit view t entity depth stays out → Extends t.registry out.1.registry ∧
      ∀ f, out.2 = .error f → t.registry.Origin view entity f
  | .unknown hget => by
      have hext := extends_of_get hget
      refine ⟨hext, fun g hg => ?_⟩
      obtain rfl := Except.error.inj hg
      exact origin_self (ownMeaning_of_get hget _)
  | .unread hget hown hout => by
      have hext := extends_of_get hget
      have hb := get_ok hget
      obtain rfl := builder?_entity hb
      have hread := extends_resolveOwn hb view
      rw [hown] at hread
      subst hout
      refine ⟨hext.trans hread, fun g hg => ?_⟩
      obtain rfl := Except.error.inj hg
      exact (origin_self (ownMeaning_of_resolveOwn hb hown)).congr hext.facts
  | .known hget hown hwalk hout => by
      obtain ⟨hwalked, hfault⟩ := hwalk.origin
      have hext := extends_of_get hget
      have hb := get_ok hget
      obtain rfl := builder?_entity hb
      have hread := extends_resolveOwn hb view
      rw [hown] at hread
      obtain ⟨c, hc, -⟩ := (hread.trans hwalked).kept hb
      subst hout
      refine ⟨hext.trans (hread.trans (hwalked.trans (extends_conclude _ _ _ _))), fun f hf => ?_⟩
      obtain ⟨e, he, horigin⟩ := hfault f (congrArg Prod.snd (conclude_error hc hf))
      exact .of_edge (hext.facts ▸ facts_of_builder hb) he (horigin.congr (hext.trans hread).facts)

/-- A walk leaves what is known as it is, and fails with a fault of a type that an edge leads to, or of one that this
type reaches. -/
theorem Walk.origin {t : Traversal} {edges : List Edge} {depth : Nat} {stays : List Stay}
    {out : Traversal × Except Fault (List (Edge × Resolved) × Bool)} :
    Walk view t edges depth stays out → Extends t.registry out.1.registry ∧
      ∀ f, out.2 = .error f → ∃ e ∈ edges, t.registry.Origin view e.target f
  | .done => ⟨.refl _, nofun⟩
  | .cut _ hrest => by
      obtain ⟨hext, hfault⟩ := hrest.origin
      refine ⟨hext, fun f hf => ?_⟩
      obtain ⟨e, he, horigin⟩ := hfault f (error_of_map hf)
      exact ⟨e, List.mem_cons_of_mem _ he, horigin⟩
  | .failed _ hvisit => by
      obtain ⟨hext, hfault⟩ := hvisit.origin
      refine ⟨hext, fun f hf => ⟨_, List.mem_cons_self, ?_⟩⟩
      obtain rfl := Except.error.inj hf
      exact hfault _ rfl
  | .visited _ hvisit hrest => by
      obtain ⟨hext, -⟩ := hvisit.origin
      obtain ⟨hext', hfault⟩ := hrest.origin
      refine ⟨hext.trans hext', fun f hf => ?_⟩
      obtain ⟨e, he, horigin⟩ := hfault f (error_of_map hf)
      exact ⟨e, List.mem_cons_of_mem _ he, horigin.congr hext.facts⟩

end

/-- The traversal of a request comes to an end. -/
theorem exists_visit (r : Registry) (view : SourceView) (entity : String) :
    ∃ depth stays, Visit view ⟨r, []⟩ entity depth stays (resolve view (r.typeBound + 1) ⟨r, []⟩ entity) := by
  have hends : Ends view r.types (r.typeBound + 1) ⟨r, []⟩ entity := by
    refine visit_ends (fun hk => mem_types hk) _ rfl (.start _) List.not_mem_nil ?_
    rw [length_types, List.length_nil]
    omega
  obtain ⟨depth, stays, hvisit, -⟩ := hends
  exact ⟨depth, stays, hvisit⟩

/-- A request for a type and its ancestors fails with a fault of one of them. -/
theorem origin_of_inclusiveRestriction (h : (r.inclusiveRestriction view entity).2 = .error f) :
    r.Origin view entity f := by
  obtain ⟨depth, stays, hvisit⟩ := r.exists_visit view entity
  rw [inclusiveRestriction_eq_resolve] at h
  exact hvisit.origin.2 f (error_of_map h)

/-! ### Of which kind faults are -/

/-- Where all classified fields are of classifiable kinds, own fields fail with a fault of registration, which is
that of a type without a builder, or with a token that is refused. -/
theorem fault_of_ownMeaning {tokens : String → List String} {log : List Classification} (h : r.Mapped log)
    (hfault : r.ownMeaning tokens entity = .error f) :
    r.builder? entity = none ∧ f.isRegistration = true ∨ f.isRefusedToken := by
  unfold ownMeaning at hfault
  cases hk : r.facts entity with
  | error g =>
    rw [hk] at hfault
    obtain rfl := Except.error.inj hfault
    refine .inl ⟨?_, isRegistration_of_facts hk⟩
    cases hb : r.builder? entity with
    | none => rfl
    | some b => cases hk.symm.trans (facts_of_builder hb)
  | ok known =>
    rw [hk] at hfault
    refine .inr (Facts.isRefusedToken_of_demand (fun c hc => ?_) hfault)
    obtain ⟨g, -, -, -, hkind⟩ := (h.mapped hk).proper.declared c hc
    exact hkind

end RowAccess.Registry
