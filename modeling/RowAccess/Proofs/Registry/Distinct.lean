import Mathlib.Data.List.Basic
import Mathlib.Data.List.Nodup
import Mathlib.Tactic.Common
import RowAccess.Proofs.Registry.Mapping

/-!
# One builder for each type

Builders are made of types that have none, and put back in the place of their own type. So a registry never has two
builders of one type, and a builder that is put back as it was is no change at all: a classification that is refused or
that was made before leaves the registry just as it is.
-/

namespace RowAccess.Registry

open RowAccess.Builder (Resolved)

variable {r r' : Registry} {b : Builder} {view : SourceView} {entity field dimension : String}

/-! ### Invariants of requests -/

/-- What every step of a request keeps: getting a builder, and putting one back with another serial number. Then
requests and classifications keep it as well. -/
structure Invariant (p : Registry → Prop) : Prop where
  get : ∀ {r} entity, p r → p (r.get entity).1
  put : ∀ {r} serial b, p r → p ({ r with serial }.put b)

namespace Invariant

variable {p : Registry → Prop} {visit : Traversal → String → Traversal × Except Fault Resolved}

theorem resolveOwn (h : Invariant p) (hr : p r) (view : SourceView) (b : Builder) : p (r.resolveOwn view b).1 :=
  h.put _ _ hr

theorem ownRestriction (h : Invariant p) (hr : p r) (view : SourceView) (entity : String) :
    p (r.ownRestriction view entity).1 := by
  obtain ⟨f, -, heq⟩ | ⟨r₁, b, hg, -, rfl, heq⟩ := r.ownRestriction_cases view entity
  · rw [heq]
    exact hr
  · have hget := h.get b.entity hr
    rw [hg] at hget
    rw [heq]
    exact h.resolveOwn hget view b

theorem parents (hv : ∀ t entity, p t.registry → p (visit t entity).1.registry) :
    ∀ (edges : List Edge) (t : Traversal), p t.registry → p (resolveParents visit t edges).1.registry
  | [], _, ht => ht
  | e :: rest, t, ht => by
      unfold resolveParents
      split
      next =>
        have hrest := parents hv rest t ht
        generalize resolveParents visit t rest = out at hrest
        obtain ⟨t', result⟩ := out
        cases result <;> exact hrest
      next =>
        have hfirst := hv t e.target ht
        generalize visit t e.target = out at hfirst
        obtain ⟨t', result⟩ := out
        cases result with
        | error f => exact hfirst
        | ok x =>
          have hrest := parents hv rest t' hfirst
          dsimp only
          generalize resolveParents visit t' rest = out at hrest
          obtain ⟨t'', result⟩ := out
          cases result <;> exact hrest

theorem compose (h : Invariant p) (hv : ∀ t entity, p t.registry → p (visit t entity).1.registry) (view : SourceView)
    {t : Traversal} (ht : p t.registry) (b : Builder) : p (Registry.compose visit view t b).1.registry := by
  have hown := h.resolveOwn ht view b
  unfold Registry.compose
  generalize t.registry.resolveOwn view b = out at hown
  obtain ⟨r₁, result⟩ := out
  cases result with
  | error f => exact hown
  | ok x =>
    have hparents := parents hv b.schema.edges { t with registry := r₁ } hown
    dsimp only
    generalize resolveParents visit { t with registry := r₁ } b.schema.edges = out at hparents
    obtain ⟨t₂, result⟩ := out
    cases result with
    | error f => exact hparents
    | ok y =>
      dsimp only
      cases t₂.registry.builder? b.entity with
      | none => exact hparents
      | some c => exact h.put _ _ hparents

theorem resolve (h : Invariant p) (view : SourceView) :
    ∀ (fuel : Nat) (t : Traversal) (entity : String), p t.registry →
      p (Registry.resolve view fuel t entity).1.registry
  | 0, _, _, ht => ht
  | fuel + 1, t, entity, ht => by
      have hget := h.get entity ht
      unfold Registry.resolve
      generalize t.registry.get entity = out at hget
      obtain ⟨r₁, result⟩ := out
      cases result with
      | error f => exact hget
      | ok b => exact h.compose (h.resolve view fuel) view (t := ⟨r₁, t.visiting ++ [entity]⟩) hget b

theorem inclusiveRestriction (h : Invariant p) (hr : p r) (view : SourceView) (entity : String) :
    p (r.inclusiveRestriction view entity).1 := by
  rw [inclusiveRestriction_eq_resolve]
  exact h.resolve view (r.typeBound + 1) ⟨r, []⟩ entity hr

theorem classify (h : Invariant p) (hr : p r) (entity field dimension : String) :
    p (r.classify entity field dimension).1 := by
  rcases r.classify_cases entity field dimension with ⟨f, hf⟩ | ⟨b, b', -, -, -, -, hb'⟩
  · rw [hf]
    exact h.get entity hr
  · rw [hb']
    exact h.put _ b' (h.get entity hr)

end Invariant

/-! ### Distinct types -/

/-- No two builders are of one type. -/
def Distinct (r : Registry) : Prop := (r.builders.map Builder.entity).Nodup

theorem entities_put (r : Registry) (b : Builder) :
    (r.put b).builders.map Builder.entity = r.builders.map Builder.entity := by
  unfold put
  rw [List.map_map]
  refine List.map_congr_left fun c _ => ?_
  show (if c.entity = b.entity then b else c).entity = c.entity
  split
  next h => exact h.symm
  next => rfl

/-- A builder is made of a type that has none. -/
theorem entities_get (r : Registry) (entity : String) :
    (r.get entity).1.builders.map Builder.entity = r.builders.map Builder.entity ∨
      entity ∉ r.builders.map Builder.entity ∧
        (r.get entity).1.builders.map Builder.entity = r.builders.map Builder.entity ++ [entity] := by
  rcases get_cases r entity with ⟨b, hb, hg⟩ | ⟨f, hb, hc, hg⟩ | ⟨s, b, hb, hs, ho, hg⟩
  · exact .inl (by rw [hg])
  · exact .inl (by rw [hg])
  · have hentity := Builder.entity_of_described hs ho
    refine .inr ⟨fun hin => ?_, by rw [hg, ← hentity]; exact List.map_append⟩
    obtain ⟨c, hc, heq⟩ := List.mem_map.mp hin
    simpa [heq] using List.find?_eq_none.mp hb c hc

theorem invariant_distinct : Invariant Distinct where
  get {r} entity h := by
    rcases r.entities_get entity with heq | ⟨hnew, heq⟩
    · rwa [Distinct, heq]
    · rw [Distinct, heq, ← List.concat_eq_append]
      exact List.Nodup.concat hnew h
  put {r} serial b h := by
    rw [Distinct, entities_put]
    exact h

/-- A builder that is put back as it was is no change. -/
theorem Distinct.put_self (h : r.Distinct) (hb : r.builder? b.entity = some b) : r.put b = r := by
  have hsame : (r.builders.map fun c => if c.entity = b.entity then b else c) = r.builders := by
    refine (List.map_congr_left fun c hc => ?_).trans (List.map_id _)
    show (if c.entity = b.entity then b else c) = c
    split
    next heq => exact List.inj_on_of_nodup_map h (List.mem_of_find?_eq_some hb) hc heq.symm
    next => rfl
  show ({ r with builders := _ } : Registry) = r
  rw [hsame]

/-! ### Classifications without a trace -/

/-- Where a type has a builder, a classification that is refused leaves the registry as it is. -/
theorem classify_refused (hb : r.builder? entity = some b) {f : Fault}
    (h : (r.classify entity field dimension).2 = .error f) :
    b.classify field dimension = .error f ∧ (r.classify entity field dimension).1 = r := by
  unfold classify at h ⊢
  rw [get_found hb] at h ⊢
  dsimp only at h ⊢
  cases hc : b.classify field dimension with
  | error g =>
    rw [hc] at h
    exact ⟨congrArg _ (Except.error.inj h), rfl⟩
  | ok b' =>
    rw [hc] at h
    cases h

/-- A field that is classified under a dimension is classified so again without a fault. -/
theorem classify_of_proper (h : b.facts.Proper) {k : Classified} (hk : k ∈ b.classified) :
    b.classify k.field k.dimension = .ok b := by
  have hstep := b.classify_step k.field k.dimension
  generalize b.classify k.field k.dimension = out at hstep
  cases hstep with
  | repeated => rfl
  | added g able new => exact absurd rfl (new k hk)
  | unable g hunable =>
    obtain ⟨g', hfield, hown, hkind, hable⟩ := h.declared k hk
    have hable' := Builder.classifiableField?_eq_ok.mpr ⟨hfield, hown, hkind ▸ hable⟩
    cases hunable.symm.trans hable'
  | conflicting c held same other =>
    obtain rfl := List.inj_on_of_nodup_map h.once held hk same
    exact absurd rfl other

/-- A field that has the dimension already is classified again without any change. -/
theorem Distinct.classify_repeated (h : r.Distinct) (hb : r.builder? entity = some b)
    (hfield : b.classify field dimension = .ok b) : r.classify entity field dimension = (r, .ok ()) := by
  obtain rfl := builder?_entity hb
  unfold classify
  rw [get_found hb]
  dsimp only
  simp only [hfield, h.put_self hb]

/-- Whatever was classified before is classified again without any change. -/
theorem Distinct.classify_mapped {log : List Classification} (h : r.Distinct) (hmapped : r.Mapped log)
    {k : Classification} (hk : k ∈ log) : r.classify k.entity k.field k.dimension = (r, .ok ()) := by
  obtain ⟨b, hb⟩ := hmapped.found k hk
  have hknown := hmapped.mapped (facts_of_builder hb)
  have hlabel : (k.field, k.dimension) ∈ b.facts.labels := by
    rw [hknown.labels, List.mem_eraseDups]
    refine List.mem_append_right _ (List.mem_map.mpr ⟨k, ?_, rfl⟩)
    exact List.mem_filter.mpr ⟨hk, decide_eq_true rfl⟩
  obtain ⟨c, hc, hsame⟩ := List.mem_map.mp hlabel
  obtain ⟨hfield, hdimension⟩ := Prod.mk.inj hsame
  rw [← hfield, ← hdimension]
  exact h.classify_repeated hb (classify_of_proper hknown.proper hc)

theorem Distinct.classifyAll_mapped {log : List Classification} (h : r.Distinct) (hmapped : r.Mapped log) :
    ∀ {cs : List Classification}, (∀ k ∈ cs, k ∈ log) → Access.classifyAll r cs = (r, .ok ())
  | [], _ => rfl
  | k :: rest, hcs => by
      unfold Access.classifyAll
      simp only [h.classify_mapped hmapped (hcs k List.mem_cons_self)]
      exact h.classifyAll_mapped hmapped fun k' hk' => hcs k' (List.mem_cons_of_mem _ hk')

end RowAccess.Registry
